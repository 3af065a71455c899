/-
This file models `crypto/argon.rs`: bytes that are sealed under a password. The key comes from the
password and a salt by Argon2id, which is a parameter, and the salt and the nonce stand in clear in
front of the ciphertext. So whoever has the password opens what was sealed. Whoever has another one
does not, as long as Argon2id makes another key of it.
-/

import Mathlib
import Insub.Crypto.Primitives

namespace Insub

open Rust

/-- Argon2id with the parameters that the program gives it. An error is the text the library gives
for it. -/
abbrev PasswordHash := (password : Bytes) → (salt : Octets 32) → Except String Key

namespace PasswordHash

/-- Passwords of fewer than 2^32 bytes are hashed. -/
def Accepts (argon : PasswordHash) : Prop :=
  ∀ password salt, password.length < 2 ^ 32 → ∃ key, argon password salt = .ok key

/-- Under the salt, the two passwords have the same key only if they are the same. -/
def TellsApart (argon : PasswordHash) (salt : Octets 32) (first second : Bytes) : Prop :=
  ∀ key, argon first salt = .ok key → argon second salt = .ok key → first = second

/-- `derive_key`, with the context that its callers give an error. -/
def deriveKey (argon : PasswordHash) (password : Bytes) (salt : Octets 32) : Outcome Key :=
  match argon password salt with
  | .ok key => .ok key
  | .error reason => .error (.error s!"argon2id key derivation failed: {reason}")

/-- The keys of some passwords. -/
def keys (argon : PasswordHash) (salt : Octets 32) (passwords : List Bytes) : Set Key :=
  { key | ∃ password ∈ passwords, argon password salt = .ok key }

end PasswordHash

/-- Plaintexts of up to some length are sealed, and the ciphertext has room for a tag. -/
def Primitives.SealsWithTag (crypto : Primitives) (limit : Nat) : Prop :=
  ∀ key nonce plaintext, plaintext.length ≤ limit → ∃ ciphertext,
    crypto.aeadEncrypt key nonce plaintext = some ciphertext ∧ 16 ≤ ciphertext.length

namespace Primitives

variable (crypto : Primitives) (argon : PasswordHash)

/-- `encrypt_with_password`, with the salt and the nonce that are drawn. -/
def encryptWithPassword (plaintext password : Bytes) (salt : Octets 32) (nonce : Nonce) :
    Outcome Bytes := do
  let key ← argon.deriveKey password salt
  let (ciphertext, nonce) ← crypto.encrypt plaintext key nonce
  -- format: salt || nonce || ciphertext
  .ok (salt.toList ++ (nonce.toList ++ ciphertext))

def decryptWithPassword (encrypted password : Bytes) : Outcome Bytes :=
  if encrypted.length < 44 + 16 then .error (.error "encrypted data too short")
  else do
    let salt ← slice 0 32 encrypted
    let nonce ← slice 32 12 encrypted
    let key ← argon.deriveKey password salt
    crypto.decrypt (encrypted.drop 44) nonce key

variable {crypto argon}

/-- The three parts are found again. -/
theorem decryptWithPassword_append (salt : Octets 32) (nonce : Nonce) {ciphertext : Bytes}
    (tagged : 16 ≤ ciphertext.length) (password : Bytes) :
    crypto.decryptWithPassword argon (salt.toList ++ (nonce.toList ++ ciphertext)) password =
      (argon.deriveKey password salt >>= fun key => crypto.decrypt ciphertext nonce key) := by
  have long : ¬ (salt.toList ++ (nonce.toList ++ ciphertext)).length < 44 + 16 := by
    simp
    omega
  have saltAt : slice 0 32 (salt.toList ++ (nonce.toList ++ ciphertext)) = .ok salt := by
    have read : slice 0 32 ([] ++ (salt.toList ++ (nonce.toList ++ ciphertext))) = .ok salt :=
      slice_append rfl
    exact read
  have nonceAt : slice 32 12 (salt.toList ++ (nonce.toList ++ ciphertext)) = .ok nonce :=
    slice_append salt.toList_length
  have front : (salt.toList ++ nonce.toList).length = 44 := by simp
  rw [decryptWithPassword, if_neg long, saltAt, nonceAt, ← List.append_assoc, List.drop_left' front]
  rfl

/-- What a password has sealed, it opens. Another password does not, unless it has the same key. -/
theorem decryptWithPassword_encrypted {limit : Nat} (seals : crypto.SealsWithTag limit)
    (opens : crypto.OpensSealed) (accepts : argon.Accepts) {plaintext password : Bytes}
    (fits : plaintext.length ≤ limit) (short : password.length < 2 ^ 32) (salt : Octets 32)
    (nonce : Nonce) :
    ∃ encrypted, crypto.encryptWithPassword argon plaintext password salt nonce = .ok encrypted ∧
      crypto.decryptWithPassword argon encrypted password = .ok plaintext ∧
        ∀ other, other ≠ password → argon.TellsApart salt password other →
          crypto.OpensUnderOneKey (argon.keys salt [password, other]) →
            (crypto.decryptWithPassword argon encrypted other).IsError := by
  obtain ⟨key, hashed⟩ := accepts password salt short
  obtain ⟨ciphertext, sealed, tagged⟩ := seals key nonce plaintext fits
  have derived : argon.deriveKey password salt = .ok key := by
    rw [PasswordHash.deriveKey, hashed]
  refine ⟨salt.toList ++ (nonce.toList ++ ciphertext), ?_, ?_,
    fun other different apart oneKey => ?_⟩
  · rw [encryptWithPassword, derived, Outcome.bind_ok, encrypt, sealed]
    rfl
  · rw [decryptWithPassword_append salt nonce tagged, derived, Outcome.bind_ok,
      crypto.decrypt_sealed opens sealed]
  · rw [decryptWithPassword_append salt nonce tagged, PasswordHash.deriveKey]
    cases otherHashed : argon other salt with
    | error reason => exact Outcome.isError_error _
    | ok otherKey =>
      rw [Outcome.bind_ok, decrypt]
      cases opened : crypto.aeadDecrypt otherKey nonce ciphertext with
      | none => exact Outcome.isError_error _
      | some found =>
        have keyOf : key ∈ argon.keys salt [password, other] :=
          ⟨password, List.mem_cons_self, hashed⟩
        have otherKeyOf : otherKey ∈ argon.keys salt [password, other] :=
          ⟨other, List.mem_cons_of_mem _ List.mem_cons_self, otherHashed⟩
        obtain ⟨rfl, -⟩ := oneKey key keyOf otherKey otherKeyOf _ _ _ _ _ sealed opened
        exact absurd (apart otherKey hashed otherHashed).symm different

end Primitives

end Insub
