/-
This file lists the cryptographic functions the program takes from other crates. They
are a parameter of the whole development: a theorem that relies on a documented property
of one of them names it as a hypothesis.
-/

import Mathlib
import Insub.Library.Bytes

namespace Insub

open Rust

/-- A 32-byte key, hash or public key. -/
abbrev Key := Octets 32

/-- A ChaCha20-Poly1305 nonce. -/
abbrev Nonce := Octets 12

/-- An Ed25519 signature. Every 64 bytes are one. -/
abbrev Signature := Octets 64

/-- The cryptographic functions of the crates `hkdf`, `x25519_dalek`, `chacha20poly1305`,
`sha2` and `ed25519_dalek`. -/
structure Primitives where
  /-- The output keying material of HKDF-SHA256, cut to the requested length. -/
  hkdf : (salt : Option Bytes) → (secret info : Bytes) → (length : Nat) → Octets length
  /-- `PublicKey::from(&StaticSecret::from(secret))`. -/
  publicKey : (secret : Key) → Key
  /-- `StaticSecret::from(secret).diffie_hellman(&PublicKey::from(theirs))`. -/
  diffieHellman : (secret theirs : Key) → Key
  /-- ChaCha20-Poly1305 encryption, which refuses oversized plaintexts. -/
  aeadEncrypt : (key : Key) → (nonce : Nonce) → (plaintext : Bytes) → Option Bytes
  /-- ChaCha20-Poly1305 decryption, which refuses what fails authentication. -/
  aeadDecrypt : (key : Key) → (nonce : Nonce) → (ciphertext : Bytes) → Option Bytes
  /-- SHA-256. -/
  sha256 : (message : Bytes) → Key
  /-- Whether the bytes encode a point of the Edwards curve. -/
  isVerifyingKey : (bytes : Key) → Bool
  /-- Ed25519 verification under a verifying key, given by its bytes. -/
  verifySignature : (verifyingKey : Key) → (message : Bytes) → (signature : Signature) → Bool

/-- A `VerifyingKey` of `ed25519_dalek`: bytes that passed `from_bytes`. Two keys are equal
when their bytes are. -/
structure VerifyingKey (crypto : Primitives) where
  bytes : Key
  valid : crypto.isVerifyingKey bytes = true
  deriving DecidableEq

namespace VerifyingKey

variable {crypto : Primitives}

/-- `VerifyingKey::from_bytes`. -/
def fromBytes (crypto : Primitives) (bytes : Key) : Option (VerifyingKey crypto) :=
  if valid : crypto.isVerifyingKey bytes = true then some ⟨bytes, valid⟩ else none

/-- `verifying_key.verify(message, signature).is_ok()`. -/
def verify (verifyingKey : VerifyingKey crypto) (message : Bytes) (signature : Signature) :
    Bool :=
  crypto.verifySignature verifyingKey.bytes message signature

theorem bytes_inj {first second : VerifyingKey crypto} :
    first.bytes = second.bytes ↔ first = second := by
  refine ⟨fun same => ?_, congrArg VerifyingKey.bytes⟩
  cases first
  cases second
  cases same
  rfl

theorem bytes_of_fromBytes {bytes : Key} {verifyingKey : VerifyingKey crypto}
    (parsed : fromBytes crypto bytes = some verifyingKey) : verifyingKey.bytes = bytes := by
  unfold fromBytes at parsed
  split at parsed
  · rw [← Option.some.inj parsed]
  · cases parsed

theorem fromBytes_bytes (verifyingKey : VerifyingKey crypto) :
    fromBytes crypto verifyingKey.bytes = some verifyingKey :=
  dif_pos verifyingKey.valid

end VerifyingKey

/-- An Ed25519 signing key: the key its signatures verify under, and how it signs. -/
structure SigningKey (crypto : Primitives) where
  verifyingKey : VerifyingKey crypto
  sign : Bytes → Signature

/-- What a key signs verifies. -/
def SigningKey.SignsVerifiably {crypto : Primitives} (key : SigningKey crypto) : Prop :=
  ∀ message, key.verifyingKey.verify message (key.sign message) = true

namespace Primitives

/-- Both ends of a Diffie-Hellman exchange compute the same secret. -/
def DiffieHellmanCommutes (crypto : Primitives) : Prop :=
  ∀ first second, crypto.diffieHellman first (crypto.publicKey second) =
    crypto.diffieHellman second (crypto.publicKey first)

/-- A sealed plaintext opens under the key and nonce that sealed it. -/
def OpensSealed (crypto : Primitives) : Prop :=
  ∀ key nonce plaintext ciphertext, crypto.aeadEncrypt key nonce plaintext = some ciphertext →
    crypto.aeadDecrypt key nonce ciphertext = some plaintext

/-- What opens under a key and nonce was sealed under them. -/
def OpensOnlySealed (crypto : Primitives) : Prop :=
  ∀ key nonce plaintext ciphertext, crypto.aeadDecrypt key nonce ciphertext = some plaintext →
    crypto.aeadEncrypt key nonce plaintext = some ciphertext

/-- Of some keys, a ciphertext that one of them sealed opens under no other, nor under another nonce.
That is assumed of the few keys that a run has to do with: there are more keys than tags, so it
does not hold of all. -/
def OpensUnderOneKey (crypto : Primitives) (keys : Set Key) : Prop :=
  ∀ key ∈ keys, ∀ other ∈ keys, ∀ nonce plaintext ciphertext otherNonce opened,
    crypto.aeadEncrypt key nonce plaintext = some ciphertext →
      crypto.aeadDecrypt other otherNonce ciphertext = some opened →
        other = key ∧ otherNonce = nonce

/-- Plaintexts of up to some length are sealed, and grow by the 16 bytes of the tag. -/
def SealsUpTo (crypto : Primitives) (limit : Nat) : Prop :=
  ∀ key nonce plaintext, plaintext.length ≤ limit → ∃ ciphertext,
    crypto.aeadEncrypt key nonce plaintext = some ciphertext ∧
      ciphertext.length = plaintext.length + 16

variable (crypto : Primitives)

/-- `Hkdf::expand`, which refuses outputs of more than 255 hashes. -/
def expand (salt : Option Bytes) (secret info : Bytes) (length : Nat) :
    Option (Octets length) :=
  if length ≤ 255 * 32 then some (crypto.hkdf salt secret info length) else none

/-- `hkdf::derive_key`. -/
def deriveKey (secret : Bytes) (salt : Option Bytes) (info : Bytes) : Outcome Key :=
  okOr "HKDF expand failed" (crypto.expand salt secret info 32)

@[simp] theorem deriveKey_eq (secret : Bytes) (salt : Option Bytes) (info : Bytes) :
    crypto.deriveKey secret salt info = .ok (crypto.hkdf salt secret info 32) := rfl

/-- `cipher::encrypt`, with the nonce the random generator yields. -/
def encrypt (bytes : Bytes) (key : Key) (nonce : Nonce) : Outcome (Bytes × Nonce) :=
  match crypto.aeadEncrypt key nonce bytes with
  | some encrypted => .ok (encrypted, nonce)
  | none => .error (.error "encryption failed")

/-- `cipher::decrypt`. -/
def decrypt (cipherBytes : Bytes) (nonce : Nonce) (key : Key) : Outcome Bytes :=
  okOr "decryption failed: wrong key, wrong nonce, or corrupted/tampered data"
    (crypto.aeadDecrypt key nonce cipherBytes)

theorem OpensUnderOneKey.mono {crypto : Primitives} {keys fewer : Set Key}
    (oneKey : crypto.OpensUnderOneKey keys) (subset : fewer ⊆ keys) :
    crypto.OpensUnderOneKey fewer :=
  fun key member other also => oneKey key (subset member) other (subset also)

/-- What opens is the plaintext that was sealed. -/
theorem OpensUnderOneKey.plaintext_eq {crypto : Primitives} (opens : crypto.OpensSealed)
    {keys : Set Key} (oneKey : crypto.OpensUnderOneKey keys) {key other : Key}
    (member : key ∈ keys) (also : other ∈ keys) {nonce otherNonce : Nonce}
    {plaintext ciphertext opened : Bytes}
    (sealed : crypto.aeadEncrypt key nonce plaintext = some ciphertext)
    (opening : crypto.aeadDecrypt other otherNonce ciphertext = some opened) :
    opened = plaintext := by
  obtain ⟨rfl, rfl⟩ := oneKey _ member _ also _ _ _ _ _ sealed opening
  have whole := opens _ _ _ _ sealed
  rw [opening] at whole
  exact Option.some.inj whole

theorem decrypt_sealed (opens : crypto.OpensSealed) {key : Key} {nonce : Nonce}
    {plaintext ciphertext : Bytes} (sealed : crypto.aeadEncrypt key nonce plaintext = some ciphertext) :
    crypto.decrypt ciphertext nonce key = .ok plaintext := by
  rw [decrypt, opens key nonce plaintext ciphertext sealed, okOr]

end Primitives

end Insub
