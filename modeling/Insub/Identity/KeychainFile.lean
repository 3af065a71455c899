/-
This file models how `identity/keychain.rs` writes a keychain and reads it again: the two private
keys stand in clear, or sealed under a password, behind a byte that says which. The public keys are
not written; they are computed again. What is written with a password of fewer than 2^32 bytes is
read with it, and with no other. A longer password is refused by Argon2id, and `serialize` panics.
-/

import Mathlib
import Insub.Crypto.Argon
import Insub.Crypto.SampleSuite
import Insub.Identity.Keychain

namespace Insub

open Rust

variable {crypto : Primitives}

/-- `text.as_bytes()`. -/
def utf8 (text : String) : Bytes := text.toUTF8.data.toList

theorem utf8_inj {first second : String} : utf8 first = utf8 second ↔ first = second := by
  rw [utf8, utf8, Array.toList_inj, ← ByteArray.ext_iff, String.toUTF8_eq_toByteArray,
    String.toUTF8_eq_toByteArray, String.toByteArray_inj]

/-- The keychain of a device with its private keys. -/
structure DeviceKeychain extends Keychain where
  hasPassword : Bool
  deviceEd25519Priv : Key
  deviceX25519Priv : Key

/-- What the keychain takes from elsewhere: the seed phrases, `SigningKey::to_bytes`, and
Argon2id. -/
structure KeychainLibraries (crypto : Primitives) where
  words : Mnemonics crypto
  toBytes : SigningKey crypto → Key
  argon : PasswordHash

namespace DeviceKeychain

variable (libraries : KeychainLibraries crypto)

/-- `from_mnemonic`. A secret of `x25519_dalek` is its bytes. -/
def fromMnemonic (mnemonic : libraries.words.Mnemonic) (password : Option String) :
    DeviceKeychain where
  toKeychain := .fromMnemonic libraries.words mnemonic password
  hasPassword := password.isSome
  deviceEd25519Priv := libraries.toBytes
    (libraries.words.signingKey (libraries.words.derive mnemonic password "keychain-ed25519"))
  deviceX25519Priv := libraries.words.derive mnemonic password "keychain-x25519"

/-- `serialize`, with the salt and the nonce that are drawn. -/
def serialize (keychain : DeviceKeychain) (password : Option String) (salt : Octets 32)
    (nonce : Nonce) : Outcome Bytes :=
  let privkeys := keychain.deviceEd25519Priv.toList ++ keychain.deviceX25519Priv.toList
  match password with
  | some pw =>
    match crypto.encryptWithPassword libraries.argon privkeys (utf8 pw) salt nonce with
    | .ok encrypted => .ok (1 :: encrypted)
    | .error (.error reason) => .error (.panic s!"keychain encryption failed: {reason.quote}")
    | .error (.panic site) => .error (.panic site)
  | none => .ok (0 :: privkeys)

/-- The private keys, in clear or sealed. -/
def readPrivkeys (hasPassword : Bool) (bytes : Bytes) (password : Option String) : Outcome Bytes :=
  if hasPassword then do
    let pw ← okOr "keychain is encrypted but no password provided" password
    crypto.decryptWithPassword libraries.argon (bytes.drop 1) (utf8 pw)
  else if bytes.length < 1 + 64 then .error (.error "truncated keychain data")
  else (slice 1 64 bytes).map List.Vector.toList

def fromSerialized (bytes : Bytes) (password : Option String) : Outcome DeviceKeychain :=
  if bytes.isEmpty then .error (.error "empty keychain data")
  else do
    let kind ← index 0 bytes
    let hasPassword := kind != 0
    let privkeys ← readPrivkeys libraries hasPassword bytes password
    if privkeys.length < 64 then .error (.error "invalid keychain data")
    else do
      let deviceEd25519Priv ← slice 0 32 privkeys
      let deviceX25519Priv ← slice 32 32 privkeys
      .ok { deviceEd25519Pub := (libraries.words.signingKey deviceEd25519Priv).verifyingKey.bytes
            deviceX25519Pub := crypto.publicKey deviceX25519Priv
            hasPassword
            deviceEd25519Priv
            deviceX25519Priv }

variable {libraries}

/-- The public keys are those of the private keys. -/
structure Matches (libraries : KeychainLibraries crypto) (keychain : DeviceKeychain) : Prop where
  ed25519 : keychain.deviceEd25519Pub =
    (libraries.words.signingKey keychain.deviceEd25519Priv).verifyingKey.bytes
  x25519 : keychain.deviceX25519Pub = crypto.publicKey keychain.deviceX25519Priv

/-- The two private keys, one behind the other. -/
def privkeys (keychain : DeviceKeychain) : Bytes :=
  keychain.deviceEd25519Priv.toList ++ keychain.deviceX25519Priv.toList

theorem length_privkeys (keychain : DeviceKeychain) : keychain.privkeys.length = 64 := by
  simp [privkeys]

theorem matches_fromMnemonic
    (returns : ∀ secret, libraries.toBytes (libraries.words.signingKey secret) = secret)
    (mnemonic : libraries.words.Mnemonic) (password : Option String) :
    Matches libraries (fromMnemonic libraries mnemonic password) where
  ed25519 := by
    show (Keychain.fromMnemonic libraries.words mnemonic password).deviceEd25519Pub =
      (libraries.words.signingKey (libraries.toBytes _)).verifyingKey.bytes
    rw [returns]
    rfl
  x25519 := rfl

/-- A keychain is read from its private keys, whichever way these are found. -/
theorem fromSerialized_of_privkeys {keychain : DeviceKeychain} (fit : keychain.Matches libraries)
    {kind : UInt8} {rest : Bytes} {password : Option String}
    (read : readPrivkeys libraries (kind != 0) (kind :: rest) password = .ok keychain.privkeys) :
    fromSerialized libraries (kind :: rest) password =
      .ok { keychain with hasPassword := kind != 0 } := by
  have long : ¬ keychain.privkeys.length < 64 := by rw [length_privkeys]; decide
  have ed25519At : slice 0 32 keychain.privkeys = .ok keychain.deviceEd25519Priv := by
    have front : slice 0 32 ([] ++ keychain.privkeys) = .ok keychain.deviceEd25519Priv :=
      slice_append rfl
    exact front
  have x25519At : slice 32 32 keychain.privkeys = .ok keychain.deviceX25519Priv := by
    have back : slice 32 32 (keychain.deviceEd25519Priv.toList ++
        (keychain.deviceX25519Priv.toList ++ [])) = .ok keychain.deviceX25519Priv :=
      slice_append (List.Vector.toList_length _)
    rwa [List.append_nil] at back
  have first : index 0 (kind :: rest) = .ok kind := rfl
  rw [fromSerialized, List.isEmpty_cons, if_neg Bool.false_ne_true, first, Outcome.bind_ok]
  dsimp only
  rw [read, Outcome.bind_ok, if_neg long, ed25519At, Outcome.bind_ok, x25519At, Outcome.bind_ok,
    ← fit.ed25519, ← fit.x25519]

theorem isError_fromSerialized {kind : UInt8} {rest : Bytes} {password : Option String}
    (unread : (readPrivkeys libraries (kind != 0) (kind :: rest) password).IsError) :
    (fromSerialized libraries (kind :: rest) password).IsError := by
  obtain ⟨reason, unread⟩ := unread
  have first : index 0 (kind :: rest) = .ok kind := rfl
  rw [fromSerialized, List.isEmpty_cons, if_neg Bool.false_ne_true, first, Outcome.bind_ok]
  dsimp only
  rw [unread]
  exact Outcome.isError_error reason

/-- Without a password, a keychain is written in clear and read again. -/
theorem restored_plain {keychain : DeviceKeychain} (fit : keychain.Matches libraries)
    (salt : Octets 32) (nonce : Nonce) :
    ∃ bytes, keychain.serialize libraries none salt nonce = .ok bytes ∧
      fromSerialized libraries bytes none = .ok { keychain with hasPassword := false } := by
  refine ⟨0 :: keychain.privkeys, rfl, fromSerialized_of_privkeys fit ?_⟩
  have enough : ¬ (0 :: keychain.privkeys).length < 1 + 64 := by
    rw [List.length_cons, length_privkeys]
    decide
  have kindSize : [(0 : UInt8)].length = 1 := rfl
  obtain ⟨octets, taken, same⟩ : ∃ octets : Octets 64,
      slice 1 64 ([0] ++ (keychain.privkeys ++ [])) = .ok octets ∧
        octets.toList = keychain.privkeys := slice_of_append kindSize keychain.length_privkeys
  rw [List.append_nil] at taken
  rw [readPrivkeys, if_neg (by decide), if_neg enough]
  show (slice 1 64 ([0] ++ keychain.privkeys)).map List.Vector.toList = _
  rw [taken]
  exact congrArg Except.ok same

/-- With a password, it is sealed, and read again with this password and with no other. -/
theorem restored_sealed {keychain : DeviceKeychain} (fit : keychain.Matches libraries)
    (accepts : libraries.argon.Accepts) (seals : crypto.SealsWithTag 64)
    (opens : crypto.OpensSealed) {pw : String}
    (short : (utf8 pw).length < 2 ^ 32) (salt : Octets 32) (nonce : Nonce) :
    ∃ bytes, keychain.serialize libraries (some pw) salt nonce = .ok bytes ∧
      fromSerialized libraries bytes (some pw) = .ok { keychain with hasPassword := true } ∧
      (fromSerialized libraries bytes none).IsError ∧
        ∀ other, other ≠ pw → libraries.argon.TellsApart salt (utf8 pw) (utf8 other) →
          crypto.OpensUnderOneKey (libraries.argon.keys salt [utf8 pw, utf8 other]) →
            (fromSerialized libraries bytes (some other)).IsError := by
  obtain ⟨encrypted, written, read, others⟩ := Primitives.decryptWithPassword_encrypted seals opens
    accepts keychain.length_privkeys.le short salt nonce
  refine ⟨1 :: encrypted, ?_, fromSerialized_of_privkeys fit read,
    isError_fromSerialized (Outcome.isError_error _), fun other different apart oneKey => ?_⟩
  · rw [privkeys] at written
    rw [serialize, written]
  · have unlike : utf8 other ≠ utf8 pw := fun same => different (utf8_inj.mp same)
    exact isError_fromSerialized (others (utf8 other) unlike apart oneKey)

/-- A password that Argon2id refuses ends the program. -/
theorem panics_serialize {pw reason : String} {salt : Octets 32}
    (refused : libraries.argon (utf8 pw) salt = .error reason) (keychain : DeviceKeychain)
    (nonce : Nonce) : (keychain.serialize libraries (some pw) salt nonce).Panics := by
  have failed : crypto.encryptWithPassword libraries.argon keychain.privkeys (utf8 pw) salt nonce =
      .error (.error s!"argon2id key derivation failed: {reason}") := by
    rw [Primitives.encryptWithPassword, PasswordHash.deriveKey, refused]
    rfl
  rw [privkeys] at failed
  rw [serialize, failed]
  exact Outcome.panics_panic _

/-- The keychain of a mnemonic is restored with the password that it was written with, unless that
is too long for Argon2id, and with no other. -/
theorem keychain_restored
    (returns : ∀ secret, libraries.toBytes (libraries.words.signingKey secret) = secret)
    (accepts : libraries.argon.Accepts) (seals : crypto.SealsWithTag 64)
    (opens : crypto.OpensSealed)
    (mnemonic : libraries.words.Mnemonic) (password storage : Option String)
    (short : ∀ pw ∈ storage, (utf8 pw).length < 2 ^ 32) (salt : Octets 32) (nonce : Nonce) :
    let keychain := fromMnemonic libraries mnemonic password
    ∃ bytes, keychain.serialize libraries storage salt nonce = .ok bytes ∧
      fromSerialized libraries bytes storage =
        .ok { keychain with hasPassword := storage.isSome } ∧
      ∀ pw, storage = some pw → (fromSerialized libraries bytes none).IsError ∧
        ∀ other, other ≠ pw → libraries.argon.TellsApart salt (utf8 pw) (utf8 other) →
          crypto.OpensUnderOneKey (libraries.argon.keys salt [utf8 pw, utf8 other]) →
            (fromSerialized libraries bytes (some other)).IsError := by
  intro keychain
  have fit : keychain.Matches libraries := matches_fromMnemonic returns mnemonic password
  cases storage with
  | none =>
    obtain ⟨bytes, written, read⟩ := restored_plain fit salt nonce
    exact ⟨bytes, written, read, fun pw given => nomatch given⟩
  | some pw =>
    obtain ⟨bytes, written, read, unnamed, others⟩ :=
      restored_sealed fit accepts seals opens (short pw rfl) salt nonce
    refine ⟨bytes, written, read, fun other same => ?_⟩
    obtain rfl := Option.some.inj same
    exact ⟨unnamed, others⟩

/-! ### A password that is too long -/

/-- Seed phrases and signing keys of the sample suite, and a hash that refuses what Argon2id does. -/
def sampleLibraries : KeychainLibraries SampleSuite.keyedSuite where
  words :=
    { Mnemonic := Unit
      toSeed _ _ := Octets.zero 64
      signingKey secret := ⟨⟨secret, rfl⟩, SampleSuite.sign secret⟩ }
  toBytes key := key.verifyingKey.bytes
  argon password salt :=
    if password.length < 2 ^ 32 then
      .ok (SampleSuite.octets 32 (SampleSuite.checksum (salt.toList ++ password)))
    else .error "password is too long"

def sampleKeychain : DeviceKeychain := fromMnemonic sampleLibraries () none

theorem sampleLibraries_refuses {password : Bytes} (long : ¬ password.length < 2 ^ 32)
    (salt : Octets 32) :
    sampleLibraries.argon password salt = .error "password is too long" :=
  if_neg long

theorem length_utf8_replicate (count : Nat) :
    (utf8 (String.ofList (List.replicate count 'a'))).length = count := by
  have spelled : utf8 (String.ofList (List.replicate count 'a')) =
      (List.replicate count 'a').flatMap String.utf8EncodeChar := by
    rw [utf8, String.toUTF8_eq_toByteArray, String.toByteArray_ofList, List.utf8Encode,
      List.toList_data_toByteArray]
  have single : (String.utf8EncodeChar 'a').length = 1 := rfl
  rw [spelled, List.length_flatMap, List.map_replicate, single, List.sum_replicate, smul_eq_mul,
    mul_one]

/-- A keychain is not written under a password of 2^32 bytes. -/
theorem long_password_panics :
    (sampleKeychain.serialize sampleLibraries (some (String.ofList (List.replicate (2 ^ 32) 'a')))
      (Octets.zero 32) (Octets.zero 12)).Panics := by
  have long : ¬ (utf8 (String.ofList (List.replicate (2 ^ 32) 'a'))).length < 2 ^ 32 := by
    rw [length_utf8_replicate]
    exact lt_irrefl _
  exact panics_serialize (sampleLibraries_refuses long _) _ _

/-- Under a short one it is written and read again, and not with another. -/
theorem sampleKeychain_restored : ∃ bytes,
    sampleKeychain.serialize sampleLibraries (some "open") (Octets.zero 32) (Octets.zero 12) =
      .ok bytes ∧
    fromSerialized sampleLibraries bytes (some "open") =
      .ok { sampleKeychain with hasPassword := true } ∧
    (fromSerialized sampleLibraries bytes none).IsError ∧
      (fromSerialized sampleLibraries bytes (some "Open")).IsError := by
  have accepts : sampleLibraries.argon.Accepts := fun password salt short => ⟨_, if_pos short⟩
  have seals : SampleSuite.keyedSuite.SealsWithTag 64 := by
    intro key nonce plaintext _
    refine ⟨_, rfl, ?_⟩
    rw [List.length_append, SampleSuite.length_keyed]
    omega
  obtain ⟨bytes, written, read, others⟩ := keychain_restored (fun _ => rfl) accepts seals
    SampleSuite.keyed_opensSealed () none (some "open") (by decide +kernel) (Octets.zero 32)
    (Octets.zero 12)
  obtain ⟨unnamed, wrong⟩ := others "open" rfl
  refine ⟨bytes, written, read, unnamed,
    wrong "Open" (by decide) ?_ (SampleSuite.keyed_opensUnderOneKey _)⟩
  intro key first second
  exact absurd (first.trans second.symm) (by decide +kernel)

end DeviceKeychain

end Insub
