/-
**Galois/counter mode (NIST SP 800-38D) with twelve byte nonces, sixteen byte tags and no associated
data.**

The data is added to a stream of encrypted counter blocks, and the tag is a polynomial hash of the
result, hidden by one more encrypted block.  Opening recomputes the tag before it undoes the
addition.

Main definitions:

* `InlineSecrets.Cipher.counterMode` — adding the counter stream;
* `InlineSecrets.Cipher.tag` — the authentication tag;
* `InlineSecrets.Cipher.sealed`, `InlineSecrets.Cipher.opened?` — sealing and opening.

Main results:

* `InlineSecrets.Cipher.counterMode_counterMode` — adding the stream twice changes nothing;
* `InlineSecrets.Cipher.opened?_eq_some_iff` — **exactly the sealed messages open.**
-/

import InlineSecrets.Cipher.Aes

set_option relaxedAutoImplicit false
set_option autoImplicit false

namespace InlineSecrets

namespace Cipher

/-! ### Counter mode -/

/-- The counter block number `i` under a nonce; the counter is a number of 32 bits. -/
def counterBlock (nonce : Bytes) (i : Nat) : Block :=
  Block.ofBytes (nonce ++ Bytes.ofNat 4 (i % Nat.pow 2 32))

/-- The bytes of `n` encrypted counter blocks, from number 2 on. -/
def stream (keys : List Block) (nonce : Bytes) (n : Nat) : Bytes :=
  (List.range n).flatMap fun i => (encryptBlock keys (counterBlock nonce (i + 2))).toList

@[simp] theorem length_stream (keys : List Block) (nonce : Bytes) (n : Nat) :
    (stream keys nonce n).length = 16 * n := by
  have hblocks : (List.range n).map (fun i =>
      (encryptBlock keys (counterBlock nonce (i + 2))).toList.length) = List.replicate n 16 := by
    rw [List.eq_replicate_iff]
    simp
  rw [stream, List.length_flatMap, hblocks, List.sum_replicate_nat, Nat.mul_comm]

/-- The data with the counter stream added. -/
def counterMode (keys : List Block) (nonce data : Bytes) : Bytes :=
  List.zipWith (· ^^^ ·) data (stream keys nonce ((data.length + 15) / 16))

@[simp] theorem length_counterMode (keys : List Block) (nonce data : Bytes) :
    (counterMode keys nonce data).length = data.length := by
  simp [counterMode]; omega

theorem zipWith_xor_zipWith_xor : ∀ {a s : Bytes}, a.length ≤ s.length →
    List.zipWith (· ^^^ ·) (List.zipWith (· ^^^ ·) a s) s = a
  | [], _, _ => by simp
  | _ :: _, [], h => by simp at h
  | x :: a, y :: s, h => by
      have ih := zipWith_xor_zipWith_xor (a := a) (s := s) (by simpa using h)
      rw [List.zipWith_cons_cons, List.zipWith_cons_cons, ih, UInt8.xor_assoc, UInt8.xor_self,
        UInt8.xor_zero]

/-- Adding the stream twice changes nothing. -/
@[simp] theorem counterMode_counterMode (keys : List Block) (nonce data : Bytes) :
    counterMode keys nonce (counterMode keys nonce data) = data := by
  have h := length_counterMode keys nonce data
  rw [counterMode, h, counterMode]
  exact zipWith_xor_zipWith_xor (by simp; omega)

/-! ### The hash -/

/-- One step of a product: the bit number `i` of `x`, from the left, adds `v` to the sum `z`, and
`v` is multiplied by the variable. -/
def productStep (x : Nat) (zv : Nat × Nat) (i : Nat) : Nat × Nat :=
  let (z, v) := zv
  let z := if x.testBit (127 - i) then z ^^^ v else z
  let v := if v.testBit 0 then (v >>> 1) ^^^ (0xE1 <<< 120) else v >>> 1
  (z, v)

/-- The product of two blocks as polynomials over the field of two elements, the leftmost bit being
the constant term, modulo `x¹²⁸ + x⁷ + x² + x + 1`. -/
def product (x y : Nat) : Nat :=
  ((List.range 128).foldl (productStep x) (0, y)).1

/-- The blocks of some data as numbers, the last one filled up with zeros. -/
def blockNumbers (data : Bytes) : List Nat :=
  (List.range ((data.length + 15) / 16)).map fun i =>
    (Block.ofBytes ((data.drop (16 * i)).take 16)).toList |> Bytes.toNat

/-- The hash of some data and of its length in bits. -/
def hash (h : Nat) (data : Bytes) : Nat :=
  (blockNumbers data ++ [8 * data.length]).foldl (fun y x => product (y ^^^ x) h) 0

/-- **The authentication tag** of encrypted data. -/
def tag (keys : List Block) (nonce data : Bytes) : Bytes :=
  let h := Bytes.toNat (encryptBlock keys (Block.ofBytes [])).toList
  let mask := Bytes.toNat (encryptBlock keys (counterBlock nonce 1)).toList
  Bytes.ofNat 16 (hash h data ^^^ mask)

@[simp] theorem length_tag (keys : List Block) (nonce data : Bytes) :
    (tag keys nonce data).length = 16 := by simp [tag]

/-! ### Sealing and opening -/

/-- The encrypted message and its tag. -/
def sealed (key nonce message : Bytes) : Bytes :=
  let keys := roundKeys key
  let data := counterMode keys nonce message
  data ++ tag keys nonce data

/-- The message that was sealed; none when the tag is not the tag of the data. -/
def opened? (key nonce box : Bytes) : Option Bytes :=
  let keys := roundKeys key
  let data := box.take (box.length - 16)
  if box.drop (box.length - 16) = tag keys nonce data then some (counterMode keys nonce data)
  else none

@[simp] theorem length_sealed (key nonce message : Bytes) :
    (sealed key nonce message).length = message.length + 16 := by simp [sealed]

/-- A sealed message opens. -/
@[simp] theorem opened?_sealed (key nonce message : Bytes) :
    opened? key nonce (sealed key nonce message) = some message := by
  simp [opened?, sealed]

/-- **Exactly the sealed messages open.** -/
theorem opened?_eq_some_iff {key nonce box message : Bytes} :
    opened? key nonce box = some message ↔ box = sealed key nonce message := by
  constructor
  · intro h
    unfold opened? at h
    simp only [Option.ite_none_right_eq_some, Option.some.injEq] at h
    obtain ⟨ht, hm⟩ := h
    rw [sealed, ← hm, counterMode_counterMode, ← ht, List.take_append_drop]
  · rintro rfl
    simp

end Cipher

end InlineSecrets
