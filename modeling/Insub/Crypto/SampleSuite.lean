/-
This file gives one concrete suite of primitives that has the properties the theorems
assume: a checksum in place of the hash functions and of signatures, multiplication modulo
`2 ^ 256` in place of the Diffie-Hellman group, and a checksum in front of the plaintext in
place of the authenticated cipher. Its handshake sends the initiator's static key and all
payloads in clear. It offers no security; it shows that the assumptions can be met and
gives concrete runs something to compute with.
-/

import Mathlib
import Insub.Crypto.Handshake

namespace Insub

open Rust

namespace SampleSuite

/-- The checksum of a byte string. -/
def checksum (bytes : Bytes) : Nat :=
  bytes.foldl (fun sum byte => sum * 257 + byte.toNat + 1) 7

/-- An integer as an array of bytes. -/
def octets (length value : Nat) : Octets length :=
  ⟨toBeBytes length value, length_toBeBytes length value⟩

/-- The order of the group exponents. -/
def modulus : Nat := 256 ^ 32

/-- The base point. -/
def generator : Nat := 9

def scalar (key : Key) : Nat := fromBeBytes key.toList

def tag (key : Key) (nonce : Nonce) (plaintext : Bytes) : Octets 16 :=
  octets 16 (checksum (key.toList ++ nonce.toList ++ plaintext))

/-- The one signature of a message that verifies under the key. -/
def sign (verifyingKey : Key) (message : Bytes) : Signature :=
  octets 64 (checksum (verifyingKey.toList ++ message))

theorem scalar_octets (value : Nat) : scalar (octets 32 value) = value % modulus :=
  fromBeBytes_toBeBytes 32 value

end SampleSuite

open SampleSuite in
/-- The sample suite. -/
def sampleSuite : Primitives where
  hkdf salt secret info length := octets length (checksum (salt.getD [] ++ secret ++ info))
  publicKey secret := octets 32 (scalar secret * generator)
  diffieHellman secret theirs := octets 32 (scalar secret * scalar theirs % modulus)
  aeadEncrypt key nonce plaintext := some ((tag key nonce plaintext).toList ++ plaintext)
  aeadDecrypt key nonce ciphertext :=
    let plaintext := ciphertext.drop 16
    if ciphertext.take 16 = (tag key nonce plaintext).toList then some plaintext else none
  sha256 message := octets 32 (checksum message)
  isVerifyingKey _ := true
  verifySignature verifyingKey message signature := signature = sign verifyingKey message

namespace SampleSuite

/-- Every 32 bytes are a verifying key of the suite. -/
def verifyingKey (bytes : Key) : VerifyingKey sampleSuite := ⟨bytes, rfl⟩

theorem diffieHellmanCommutes : sampleSuite.DiffieHellmanCommutes := by
  intro first second
  show octets 32 (scalar first * scalar (octets 32 (scalar second * generator)) % modulus) =
    octets 32 (scalar second * scalar (octets 32 (scalar first * generator)) % modulus)
  rw [scalar_octets, scalar_octets, Nat.mul_mod_mod, Nat.mul_mod_mod, Nat.mul_left_comm]

theorem opensSealed : sampleSuite.OpensSealed := by
  intro key nonce plaintext ciphertext sealed
  have split : (tag key nonce plaintext).toList ++ plaintext = ciphertext :=
    Option.some.inj sealed
  have length : (tag key nonce plaintext).toList.length = 16 :=
    List.Vector.toList_length _
  subst split
  show (if ((tag key nonce plaintext).toList ++ plaintext).take 16 = _ then _ else _) = _
  rw [List.drop_left' length, List.take_left' length, if_pos rfl]

theorem opensOnlySealed : sampleSuite.OpensOnlySealed := by
  intro key nonce plaintext ciphertext opened
  rw [sampleSuite] at opened
  dsimp only at opened
  split at opened
  · rename_i authentic
    rw [← Option.some.inj opened, sampleSuite]
    dsimp only
    rw [← authentic, List.take_append_drop]
  · cases opened

theorem sealsUpTo (limit : Nat) : sampleSuite.SealsUpTo limit := by
  intro key nonce plaintext _
  refine ⟨_, rfl, ?_⟩
  rw [List.length_append, List.Vector.toList_length, Nat.add_comm]

/-- A handshake under way: whose it is, the static keys, and what was sent so far. -/
structure Handshake where
  initiates : Bool
  ourStatic : Key
  theirStatic : Option Key
  transcript : Bytes

/-- The handshake of the sample suite. -/
def noise : Noise where
  State := Handshake
  Transport := Option Key
  buildInitiator ourStaticPriv peerStaticPub :=
    .ok ⟨true, sampleSuite.publicKey ourStaticPriv, some peerStaticPub, []⟩
  buildResponder ourStaticPriv := .ok ⟨false, sampleSuite.publicKey ourStaticPriv, none, []⟩
  writeMessage state _ payload _ :=
    let message := if state.initiates then state.ourStatic.toList ++ payload else payload
    (.ok message, { state with transcript := state.transcript ++ message })
  readMessage state message _ :=
    let state := { state with transcript := state.transcript ++ message }
    if state.initiates then (.ok message, state)
    else
      match slice 0 32 message with
      | .ok theirStatic => (.ok (message.drop 32), { state with theirStatic })
      | .error _ => (.error "input error", state)
  getHandshakeHash state := sampleSuite.sha256 state.transcript
  intoTransportMode state := .ok state.theirStatic
  getRemoteStatic transport := transport

theorem noise_deliversUnaltered : noise.DeliversUnaltered sampleSuite := by
  intro initiatorPriv responderPriv firstEphemeral secondEphemeral first second _ _
  have static : slice 0 32 ((sampleSuite.publicKey initiatorPriv).toList ++ first) =
      .ok (sampleSuite.publicKey initiatorPriv) := by
    have read : slice 0 32 ([] ++ ((sampleSuite.publicKey initiatorPriv).toList ++ first)) = .ok _ :=
      slice_append rfl
    exact read
  have payload : ((sampleSuite.publicKey initiatorPriv).toList ++ first).drop 32 = first :=
    List.drop_left' (List.Vector.toList_length _)
  let firstMessage := (sampleSuite.publicKey initiatorPriv).toList ++ first
  let answering : Handshake := ⟨false, sampleSuite.publicKey responderPriv,
    some (sampleSuite.publicKey initiatorPriv), [] ++ firstMessage⟩
  refine ⟨_, _, _, answering, _, _, firstMessage, _, _, _, rfl, rfl, rfl, ?_, rfl, rfl, rfl, rfl,
    rfl, rfl, rfl⟩
  simp only [noise, Bool.false_eq_true, if_false]
  rw [static, payload]

/-! ### A handshake in turns -/

/-- The handshake of the sample suite, where each side writes and reads in its turn only: the first
message is the initiator's, the second the responder's. -/
def turnNoise : Noise where
  State := Handshake × Nat
  Transport := Option Key
  buildInitiator ours theirs :=
    .ok (⟨true, sampleSuite.publicKey ours, some theirs, []⟩, 0)
  buildResponder ours := .ok (⟨false, sampleSuite.publicKey ours, none, []⟩, 0)
  writeMessage state ephemeral payload capacity :=
    if state.2 = if state.1.initiates then 0 else 1 then
      match noise.writeMessage state.1 ephemeral payload capacity with
      | (written, handshake) => (written, (handshake, state.2 + 1))
    else (.error "not our turn to write", state)
  readMessage state message capacity :=
    if state.2 = if state.1.initiates then 1 else 0 then
      match noise.readMessage state.1 message capacity with
      | (read, handshake) => (read, (handshake, state.2 + 1))
    else (.error "not our turn to read", state)
  getHandshakeHash state := noise.getHandshakeHash state.1
  intoTransportMode state := noise.intoTransportMode state.1
  getRemoteStatic transport := transport

/-- Whose turn it is to write. -/
def IsMyTurn (state : Handshake × Nat) : Prop := state.2 = if state.1.initiates then 0 else 1

instance (state : Handshake × Nat) : Decidable (IsMyTurn state) :=
  inferInstanceAs (Decidable (_ = _))

theorem turnNoise_takesTurns : turnNoise.TakesTurns IsMyTurn where
  writes state ephemeral payload myTurn _ := by
    obtain ⟨handshake, count⟩ := state
    refine ⟨_, _, if_pos myTurn, fun again => ?_⟩
    have next : count + 1 = if handshake.initiates then 0 else 1 := again
    rw [← show count = if handshake.initiates then 0 else 1 from myTurn] at next
    exact Nat.succ_ne_self count next
  refuses state ephemeral payload past := ⟨_, if_neg past⟩

/-! ### A cipher that names its key -/

/-- The sample suite with another cipher, which writes the key and the nonce in front of the
plaintext. -/
def keyedSuite : Primitives where
  hkdf := sampleSuite.hkdf
  publicKey := sampleSuite.publicKey
  diffieHellman := sampleSuite.diffieHellman
  aeadEncrypt key nonce plaintext := some (key.toList ++ nonce.toList ++ plaintext)
  aeadDecrypt key nonce ciphertext :=
    if ciphertext.take 44 = key.toList ++ nonce.toList then some (ciphertext.drop 44) else none
  sha256 := sampleSuite.sha256
  isVerifyingKey := sampleSuite.isVerifyingKey
  verifySignature := sampleSuite.verifySignature

theorem length_keyed (key : Key) (nonce : Nonce) : (key.toList ++ nonce.toList).length = 44 := by
  rw [List.length_append, List.Vector.toList_length, List.Vector.toList_length]

theorem keyed_opensSealed : keyedSuite.OpensSealed := by
  intro key nonce plaintext ciphertext sealed
  have split : key.toList ++ nonce.toList ++ plaintext = ciphertext := Option.some.inj sealed
  subst split
  show (if (key.toList ++ nonce.toList ++ plaintext).take 44 = _ then _ else _) = _
  rw [List.drop_left' (length_keyed key nonce), List.take_left' (length_keyed key nonce),
    if_pos rfl]

theorem keyed_opensOnlySealed : keyedSuite.OpensOnlySealed := by
  intro key nonce plaintext ciphertext opened
  rw [keyedSuite] at opened ⊢
  dsimp only at opened ⊢
  split at opened
  · rename_i names
    rw [← Option.some.inj opened, ← names, List.take_append_drop]
  · cases opened

theorem keyed_opensUnderOneKey (keys : Set Key) : keyedSuite.OpensUnderOneKey keys := by
  intro key _ other _ nonce plaintext ciphertext otherNonce opened sealed opening
  have split : key.toList ++ nonce.toList ++ plaintext = ciphertext := Option.some.inj sealed
  subst split
  rw [keyedSuite] at opening
  dsimp only at opening
  rw [List.take_left' (length_keyed key nonce)] at opening
  split at opening
  · rename_i same
    obtain ⟨sameKey, sameNonce⟩ := List.append_inj same (by
      rw [List.Vector.toList_length, List.Vector.toList_length])
    exact ⟨(List.Vector.toList_injective sameKey).symm,
      (List.Vector.toList_injective sameNonce).symm⟩
  · cases opening

/-! ### What a checksum tells apart -/

/-- What a byte string adds to a checksum. -/
def spelled (bytes : Bytes) : Nat :=
  bytes.foldl (fun sum byte => sum * 257 + byte.toNat + 1) 0

theorem foldl_spelled (bytes : Bytes) (sum : Nat) :
    bytes.foldl (fun sum byte => sum * 257 + byte.toNat + 1) sum =
      sum * 257 ^ bytes.length + spelled bytes := by
  induction bytes generalizing sum with
  | nil => simp [spelled]
  | cons byte rest inductionHypothesis =>
    rw [spelled, List.foldl_cons, List.foldl_cons, inductionHypothesis,
      inductionHypothesis (0 * 257 + _ + 1), List.length_cons]
    ring

theorem checksum_append (first second : Bytes) :
    checksum (first ++ second) = checksum first * 257 ^ second.length + spelled second := by
  rw [checksum, List.foldl_append, foldl_spelled]
  rfl

theorem spelled_cons (byte : UInt8) (rest : Bytes) :
    spelled (byte :: rest) = (byte.toNat + 1) * 257 ^ rest.length + spelled rest := by
  rw [spelled, List.foldl_cons, foldl_spelled]
  ring

theorem spelled_lt (bytes : Bytes) : spelled bytes < 257 ^ bytes.length := by
  induction bytes with
  | nil => exact Nat.one_pos
  | cons byte rest inductionHypothesis =>
    have small : byte.toNat + 1 + 1 ≤ 257 := Nat.succ_le_succ byte.toNat_lt
    rw [spelled_cons, List.length_cons, pow_succ']
    calc
      (byte.toNat + 1) * 257 ^ rest.length + spelled rest
          < (byte.toNat + 1) * 257 ^ rest.length + 257 ^ rest.length := by omega
      _ = (byte.toNat + 1 + 1) * 257 ^ rest.length := by ring
      _ ≤ 257 * 257 ^ rest.length := Nat.mul_le_mul_right _ small

/-- Byte strings of one length add different numbers. -/
theorem spelled_inj {first second : Bytes} (same : first.length = second.length)
    (equal : spelled first = spelled second) : first = second := by
  induction first generalizing second with
  | nil => exact (List.eq_nil_of_length_eq_zero same.symm).symm
  | cons byte rest inductionHypothesis =>
    obtain ⟨other, others, rfl⟩ := List.exists_cons_of_length_eq_add_one same.symm
    rw [List.length_cons, List.length_cons, Nat.add_right_cancel_iff] at same
    have positive : 0 < 257 ^ rest.length := Nat.pow_pos (by decide)
    have digit (value : Nat) (bytes : Bytes) (fits : bytes.length = rest.length) :
        (value * 257 ^ rest.length + spelled bytes) / 257 ^ rest.length = value := by
      rw [Nat.add_comm, Nat.add_mul_div_right _ _ positive,
        Nat.div_eq_of_lt (fits ▸ spelled_lt bytes), Nat.zero_add]
    rw [spelled_cons, spelled_cons, ← same] at equal
    have leading : byte.toNat + 1 = other.toNat + 1 := by
      rw [← digit (byte.toNat + 1) rest rfl, equal, digit _ others same.symm]
    rw [leading, Nat.add_left_cancel_iff] at equal
    rw [UInt8.toNat_inj.mp (Nat.succ_injective leading), inductionHypothesis same equal]

/-- A checksum of 64 bytes tells apart what stands in one place of a byte string. -/
theorem octets_checksum_inj {before first second after : Bytes}
    (same : first.length = second.length) (short : first.length ≤ 8)
    (equal : octets 64 (checksum (before ++ first ++ after)) =
      octets 64 (checksum (before ++ second ++ after))) : first = second := by
  have residues : checksum (before ++ first ++ after) % 256 ^ 64 =
      checksum (before ++ second ++ after) % 256 ^ 64 := by
    have bytes := congrArg (fun octets => fromBeBytes octets.toList) equal
    rwa [octets, octets, List.Vector.toList_mk, List.Vector.toList_mk, fromBeBytes_toBeBytes,
      fromBeBytes_toBeBytes] at bytes
  have small (bytes : Bytes) (fits : bytes.length ≤ 8) : spelled bytes < 256 ^ 64 :=
    (spelled_lt bytes).trans_le ((Nat.pow_le_pow_right (by decide) fits).trans (by decide))
  have coprime : Nat.Coprime (256 ^ 64) (257 ^ after.length) :=
    Nat.Coprime.pow _ _ (by decide)
  rw [checksum_append, checksum_append, checksum_append, checksum_append, ← same] at residues
  have congruent : spelled first ≡ spelled second [MOD 256 ^ 64] := by
    have summed : (checksum before * 257 ^ first.length + spelled first) * 257 ^ after.length ≡
        (checksum before * 257 ^ first.length + spelled second) * 257 ^ after.length
          [MOD 256 ^ 64] := Nat.ModEq.add_right_cancel' _ residues
    exact Nat.ModEq.add_left_cancel' _ (Nat.ModEq.cancel_right_of_coprime coprime summed)
  exact spelled_inj same
    (congruent.eq_of_lt_of_lt (small first short) (small second (same ▸ short)))

end SampleSuite

end Insub
