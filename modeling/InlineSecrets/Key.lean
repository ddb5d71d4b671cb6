/-
**Keys.**

A key is 32 bytes, and its text is their Base64 form; blanks around the text do not matter.

Main definitions:

* `InlineSecrets.Key` — keys;
* `InlineSecrets.Key.Fault` — the ways in which something fails to be a key;
* `InlineSecrets.Key.parse`, `InlineSecrets.Key.text` — reading and writing;
* `InlineSecrets.Key.generate` — a key from random bytes.
-/

import InlineSecrets.Base64
import InlineSecrets.Entropy

set_option relaxedAutoImplicit false
set_option autoImplicit false

namespace InlineSecrets

/-- A key of 256 bits. -/
structure Key where
  bytes : Bytes
  length_bytes : bytes.length = 32
  deriving DecidableEq

namespace Key

/-- The ways in which something fails to be a key. -/
inductive Fault where
  | undecodable (fault : Base64.Fault)
  | wrongSize (bytes : Nat)
  deriving DecidableEq, Repr

/-- The wording of a fault. -/
def Fault.message : Fault → String
  | .undecodable f => "could not base64-decode key: " ++ f.message
  | .wrongSize n => "key must be exactly 32 bytes (got " ++ toString n ++ ")"

/-- The key with the given bytes. -/
def ofBytes (b : Bytes) : Except Fault Key :=
  if h : b.length = 32 then .ok ⟨b, h⟩ else .error (.wrongSize b.length)

@[simp] theorem ofBytes_bytes (k : Key) : ofBytes k.bytes = .ok k := by
  simp [ofBytes, k.length_bytes]

/-- The Base64 text of a key. -/
def text (k : Key) : Text := Base64.encode k.bytes

/-- The key that a text stands for. -/
def parse (t : Text) : Except Fault Key :=
  match Base64.decode t.strip with
  | .error f => .error (.undecodable f)
  | .ok b => ofBytes b

/-- A key from the next 32 random bytes. -/
def generate (e : Entropy) : Key × Entropy :=
  let (b, e) := e.next 32
  (⟨b.toList, by simp⟩, e)

end Key

end InlineSecrets
