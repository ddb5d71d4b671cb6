/-
**Sealed payloads.**

A payload is sealed by encrypting its UTF-8 bytes under a fresh nonce and writing the nonce, the
encrypted bytes and the tag as Base64.  A payload with halves of characters in it has no bytes,
which is found before a nonce is drawn.  Opening goes the same way back and says at which step a
text turns out not to be a sealed payload.

Main definitions:

* `InlineSecrets.Cipher.Failure` — the ways in which sealing and opening fail;
* `InlineSecrets.Cipher.encrypt`, `InlineSecrets.Cipher.decrypt` — on bytes;
* `InlineSecrets.Cipher.sealCodes`, `InlineSecrets.Cipher.sealText`, `InlineSecrets.Cipher.openText`
  — on payloads.
-/

import InlineSecrets.Cipher.Gcm
import InlineSecrets.Key
import InlineSecrets.Utf8

set_option relaxedAutoImplicit false
set_option autoImplicit false

namespace InlineSecrets

namespace Cipher

/-- The number of bytes of a nonce. -/
def nonceSize : Nat := 12

/-- The ways in which sealing and opening fail. -/
inductive Failure where
  | missingKey
  /-- The bytes given as a key cannot be one. -/
  | unusableKey
  | unencodable (fault : Utf8.Unencodable)
  | undecodable (fault : Base64.Fault)
  /-- There is no room for a nonce. -/
  | malformed
  | unauthentic
  | notText (fault : Utf8.Fault)
  deriving DecidableEq, Repr

/-- The wording of a failure. -/
def Failure.message : Failure → String
  | .missingKey => "missing key"
  | .unusableKey => "AESGCM key must be 128, 192, or 256 bits."
  | .unencodable f => f.message
  | .undecodable f => "failed to decode base64: " ++ f.message
  | .malformed => "malformed ciphertext"
  | .unauthentic => "message authentication failed"
  | .notText _ => "decrypted secret is not valid UTF-8"

/-! ### Bytes -/

/-- A fresh nonce, and behind it the data sealed under the key and that nonce. -/
def encrypt (key data : Bytes) (e : Entropy) : Except Failure Bytes × Entropy :=
  let (nonce, e) := e.next nonceSize
  if key.length = 32 then (.ok (nonce.toList ++ sealed key nonce.toList data), e)
  else (.error .unusableKey, e)

/-- The data that was sealed behind a nonce. -/
def decrypt (key data : Bytes) : Except Failure Bytes :=
  if data.length < nonceSize then .error .malformed
  else if key.length ≠ 32 then .error .unusableKey
  else match opened? key (data.take nonceSize) (data.drop nonceSize) with
    | none => .error .unauthentic
    | some m => .ok m

/-- What was encrypted is decrypted. -/
theorem decrypt_encrypt (k : Key) (data : Bytes) (e : Entropy) {box : Bytes}
    (h : (encrypt k.bytes data e).1 = .ok box) : decrypt k.bytes box = .ok data := by
  simp only [encrypt, k.length_bytes, if_true, Except.ok.injEq] at h
  subst h
  have hn : (e.next nonceSize).1.toList.length = nonceSize := by simp
  simp [decrypt, k.length_bytes, hn]

/-! ### Payloads -/

/-- The sealed form of a payload that may have halves of characters in it; each payload that has
bytes uses up one nonce. -/
def sealCodes (key : Option Key) (t : Codes) (e : Entropy) : Except Failure Text × Entropy :=
  match key with
  | none => (.error .missingKey, e)
  | some k =>
      match Utf8.encodeCodes t with
      | .error f => (.error (.unencodable f), e)
      | .ok data =>
          let (box, e) := encrypt k.bytes data e
          (Base64.encode <$> box, e)

/-- The sealed form of a payload. -/
def sealText (key : Option Key) (t : Text) (e : Entropy) : Except Failure Text × Entropy :=
  sealCodes key (Codes.ofText t) e

/-- The payload with the given sealed form. -/
def openText (key : Option Key) (t : Text) : Except Failure Text :=
  match key with
  | none => .error .missingKey
  | some k =>
      match Base64.decode t with
      | .error f => .error (.undecodable f)
      | .ok box =>
          match decrypt k.bytes box with
          | .error f => .error f
          | .ok data =>
              match Utf8.decode data with
              | .error f => .error (.notText f)
              | .ok t => .ok t

/-- The wording for sealing under a key, or without one, in messages; it does not show the key. -/
def describe (key : Option Key) : String :=
  "AESEncoding(key=" ++ (if key.isSome then "<set>" else "None") ++ ")"

end Cipher

end InlineSecrets
