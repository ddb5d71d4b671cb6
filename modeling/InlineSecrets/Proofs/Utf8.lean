/-
**UTF-8 reads back what it writes.**

The proofs follow the bytes of a character: what its lead byte begins, and what each continuation
byte adds.  In the other direction the bounds on continuation bytes are what excludes longer forms
of a character and numbers that are no character's, so that no other bytes are read.

Main definitions:

* `InlineSecrets.Utf8.Begun` — a character whose lead byte has been read;
* `InlineSecrets.Utf8.Continues` — the continuation bytes that fit it.

Main results:

* `InlineSecrets.Utf8.decodeFrom_encodeChar` — the bytes of a character are read as that character;
* `InlineSecrets.Utf8.decode_encode` — **what was written is read;**
* `InlineSecrets.Utf8.exists_of_decodeFrom_cons` — what is read begins with a character's bytes;
* `InlineSecrets.Utf8.decode_eq_ok_iff` — **exactly what was written is read.**
-/

import InlineSecrets.Utf8
import Mathlib.Tactic.SplitIfs

set_option relaxedAutoImplicit false
set_option autoImplicit false

namespace InlineSecrets

namespace Utf8

/-! ### Bytes and numbers -/

theorem ofNat_lt_iff {n : Nat} {k : UInt8} (h : n < 256) : UInt8.ofNat n < k ↔ n < k.toNat := by
  rw [UInt8.lt_iff_toNat_lt, UInt8.toNat_ofNat', Nat.mod_eq_of_lt h]

theorem lt_ofNat_iff {n : Nat} {k : UInt8} (h : n < 256) : k < UInt8.ofNat n ↔ k.toNat < n := by
  rw [UInt8.lt_iff_toNat_lt, UInt8.toNat_ofNat', Nat.mod_eq_of_lt h]

theorem ofNat_eq_iff {n : Nat} {k : UInt8} (h : n < 256) : UInt8.ofNat n = k ↔ n = k.toNat := by
  rw [← UInt8.toNat_inj, UInt8.toNat_ofNat', Nat.mod_eq_of_lt h]

theorem toNat_ofNat_of_lt {n : Nat} (h : n < 256) : (UInt8.ofNat n).toNat = n := by
  rw [UInt8.toNat_ofNat', Nat.mod_eq_of_lt h]

/-! ### Lead bytes -/

/-- What a lead byte begins, from the number that it stands for. -/
theorem pending?_ofNat {b : Nat} (hb : b < 256) (pos : Nat) :
    pending? (UInt8.ofNat b) pos =
      let p := fun owed least greatest value =>
        some (Pending.mk owed least greatest value (UInt8.ofNat b) pos)
      if b < 0xC2 then none
      else if b < 0xE0 then p 1 0x80 0xBF (b % 0x20)
      else if b = 0xE0 then p 2 0xA0 0xBF 0
      else if b = 0xED then p 2 0x80 0x9F 0xD
      else if b < 0xF0 then p 2 0x80 0xBF (b % 0x10)
      else if b = 0xF0 then p 3 0x90 0xBF 0
      else if b = 0xF4 then p 3 0x80 0x8F 4
      else if b < 0xF4 then p 3 0x80 0xBF (b % 8)
      else none := by
  simp only [pending?, ofNat_lt_iff hb, ofNat_eq_iff hb, toNat_ofNat_of_lt hb]
  rfl

/-- A character begun by a lead byte at `pos`, of which `owed` continuation bytes are owed; the bits
of the lead byte are `high`, and the bounds on the first continuation byte admit the bits `next`. -/
def Begun (b pos owed high next : Nat) (p : Pending) : Prop :=
  pending? (UInt8.ofNat b) pos = some p ∧ p.owed = owed ∧ p.value = high ∧
    p.least.toNat ≤ 0x80 + next ∧ 0x80 + next ≤ p.greatest.toNat

/-- The lead byte of a character with one continuation byte. -/
theorem exists_begun_two {n : Nat} (pos : Nat) (h₁ : 0x80 ≤ n) (h₂ : n < 0x800) :
    ∃ p, Begun (0xC0 + n / 0x40) pos 1 (n / 0x40) (n % 0x40) p := by
  have h80 : UInt8.toNat 0x80 = 0x80 := rfl
  have hBF : UInt8.toNat 0xBF = 0xBF := rfl
  have hvalue : (0xC0 + n / 0x40) % 0x20 = n / 0x40 := by omega
  refine ⟨⟨1, 0x80, 0xBF, n / 0x40, UInt8.ofNat (0xC0 + n / 0x40), pos⟩, ?_, rfl, rfl, ?_, ?_⟩
  · rw [pending?_ofNat (by omega)]
    simp only [if_neg (by omega : ¬0xC0 + n / 0x40 < 0xC2),
      if_pos (by omega : 0xC0 + n / 0x40 < 0xE0), hvalue]
  · dsimp only
    omega
  · dsimp only
    omega

/-- The lead byte of a character with two continuation bytes. -/
theorem exists_begun_three {n : Nat} (pos : Nat) (h₁ : 0x800 ≤ n) (h₂ : n < 0x10000)
    (h₃ : n < 0xD800 ∨ 0xDFFF < n) :
    ∃ p, Begun (0xE0 + n / 0x1000) pos 2 (n / 0x1000) (n / 0x40 % 0x40) p := by
  have hA0 : UInt8.toNat 0xA0 = 0xA0 := rfl
  have hBF : UInt8.toNat 0xBF = 0xBF := rfl
  have h9F : UInt8.toNat 0x9F = 0x9F := rfl
  have h80 : UInt8.toNat 0x80 = 0x80 := rfl
  have hvalue : (0xE0 + n / 0x1000) % 0x10 = n / 0x1000 := by omega
  unfold Begun
  rw [pending?_ofNat (by omega)]
  simp only [if_neg (by omega : ¬0xE0 + n / 0x1000 < 0xC2),
    if_neg (by omega : ¬0xE0 + n / 0x1000 < 0xE0), if_pos (by omega : 0xE0 + n / 0x1000 < 0xF0)]
  -- the bounds are narrower behind the first lead byte, and behind the one in front of surrogates
  split
  · exact ⟨_, rfl, rfl, by dsimp only; omega, by dsimp only; omega, by dsimp only; omega⟩
  · split
    · exact ⟨_, rfl, rfl, by dsimp only; omega, by dsimp only; omega, by dsimp only; omega⟩
    · exact ⟨_, rfl, rfl, hvalue, by dsimp only; omega, by dsimp only; omega⟩

/-- The lead byte of a character with three continuation bytes. -/
theorem exists_begun_four {n : Nat} (pos : Nat) (h₁ : 0x10000 ≤ n) (h₂ : n < 0x110000) :
    ∃ p, Begun (0xF0 + n / 0x40000) pos 3 (n / 0x40000) (n / 0x1000 % 0x40) p := by
  have h90 : UInt8.toNat 0x90 = 0x90 := rfl
  have hBF : UInt8.toNat 0xBF = 0xBF := rfl
  have h8F : UInt8.toNat 0x8F = 0x8F := rfl
  have h80 : UInt8.toNat 0x80 = 0x80 := rfl
  have hvalue : (0xF0 + n / 0x40000) % 8 = n / 0x40000 := by omega
  unfold Begun
  rw [pending?_ofNat (by omega)]
  simp only [if_neg (by omega : ¬0xF0 + n / 0x40000 < 0xC2),
    if_neg (by omega : ¬0xF0 + n / 0x40000 < 0xE0), if_neg (by omega : ¬0xF0 + n / 0x40000 = 0xE0),
    if_neg (by omega : ¬0xF0 + n / 0x40000 = 0xED), if_neg (by omega : ¬0xF0 + n / 0x40000 < 0xF0)]
  split
  · exact ⟨_, rfl, rfl, by dsimp only; omega, by dsimp only; omega, by dsimp only; omega⟩
  · split
    · exact ⟨_, rfl, rfl, by dsimp only; omega, by dsimp only; omega, by dsimp only; omega⟩
    · rw [if_pos (by omega)]
      exact ⟨_, rfl, rfl, hvalue, by dsimp only; omega, by dsimp only; omega⟩

/-! ### Continuation bytes -/

variable {pos m : Nat} {p : Pending} {r : Bytes}

/-- A continuation byte within its bounds is none outside them. -/
theorem not_outside (hm : m < 0x40) (hlo : p.least.toNat ≤ 0x80 + m)
    (hhi : 0x80 + m ≤ p.greatest.toNat) :
    ¬(UInt8.ofNat (0x80 + m) < p.least ∨ p.greatest < UInt8.ofNat (0x80 + m)) := by
  rw [ofNat_lt_iff (by omega), lt_ofNat_iff (by omega)]
  omega

/-- Reading a continuation byte behind which more are owed. -/
theorem decodeFrom_next (howed : 1 < p.owed) (hm : m < 0x40) (hlo : p.least.toNat ≤ 0x80 + m)
    (hhi : 0x80 + m ≤ p.greatest.toNat) :
    decodeFrom pos (some p) (UInt8.ofNat (0x80 + m) :: r) =
      decodeFrom (pos + 1) (some { p with
        owed := p.owed - 1, least := 0x80, greatest := 0xBF, value := p.value * 0x40 + m }) r := by
  rw [decodeFrom, if_neg (not_outside hm hlo hhi), toNat_ofNat_of_lt (by omega),
    show (0x80 + m) % 0x40 = m by omega]
  simp only [if_neg (by omega : ¬p.owed ≤ 1)]

/-- Reading the last continuation byte. -/
theorem decodeFrom_last {c : Char} {t : Text} (howed : p.owed = 1) (hm : m < 0x40)
    (hlo : p.least.toNat ≤ 0x80 + m) (hhi : 0x80 + m ≤ p.greatest.toNat)
    (hvalue : p.value * 0x40 + m = c.toNat) (h : decodeFrom (pos + 1) none r = .ok t) :
    decodeFrom pos (some p) (UInt8.ofNat (0x80 + m) :: r) = .ok (c :: t) := by
  rw [decodeFrom, if_neg (not_outside hm hlo hhi), toNat_ofNat_of_lt (by omega),
    show (0x80 + m) % 0x40 = m by omega]
  simp only [howed, Nat.le_refl, if_true, h, hvalue, Char.ofNat_toNat]
  rfl

/-! ### Characters -/

/-- Reading a lead byte. -/
theorem Begun.decodeFrom_eq {b owed high next : Nat} (h : Begun b pos owed high next p)
    (hb : b < 256) (hlead : 0x80 ≤ b) :
    decodeFrom pos none (UInt8.ofNat b :: r) = decodeFrom (pos + 1) (some p) r := by
  have hascii : ¬UInt8.ofNat b < 0x80 := by
    rw [ofNat_lt_iff hb]
    exact Nat.not_lt.2 hlead
  rw [decodeFrom, if_neg hascii, h.1]

/-- **The bytes of a character are read as that character.** -/
theorem decodeFrom_encodeChar (c : Char) {t : Text}
    (h : decodeFrom (pos + (encodeChar c).length) none r = .ok t) :
    decodeFrom pos none (encodeChar c ++ r) = .ok (c :: t) := by
  have hc : c.toNat < 0xD800 ∨ 0xDFFF < c.toNat ∧ c.toNat < 0x110000 := c.valid
  have h80 : UInt8.toNat 0x80 = 0x80 := rfl
  have hBF : UInt8.toNat 0xBF = 0xBF := rfl
  revert h
  unfold encodeChar
  dsimp only
  -- one case for each number of bytes
  split
  · next h₁ =>
      intro h
      have hlt : UInt8.ofNat c.toNat < 0x80 := by
        rw [ofNat_lt_iff (by omega)]
        exact h₁
      rw [List.singleton_append, decodeFrom, if_pos hlt, toNat_ofNat_of_lt (by omega),
        Char.ofNat_toNat, show decodeFrom (pos + 1) none r = .ok t from h]
      rfl
  · next h₁ =>
      split
      · next h₂ =>
          intro h
          obtain ⟨p, hp⟩ := exists_begun_two pos (by omega : 0x80 ≤ c.toNat) h₂
          rw [List.cons_append, hp.decodeFrom_eq (by omega) (by omega)]
          obtain ⟨-, howed, hvalue, hlo, hhi⟩ := hp
          exact decodeFrom_last howed (by omega) hlo hhi (by omega) h
      · next h₂ =>
          split
          · next h₃ =>
              intro h
              obtain ⟨p, hp⟩ := exists_begun_three pos (by omega : 0x800 ≤ c.toNat) h₃ (by omega)
              rw [List.cons_append, hp.decodeFrom_eq (by omega) (by omega)]
              obtain ⟨-, howed, hvalue, hlo, hhi⟩ := hp
              rw [List.cons_append, decodeFrom_next (by omega) (by omega) hlo hhi]
              refine decodeFrom_last ?_ (by omega) ?_ ?_ ?_ h <;> dsimp only <;> omega
          · next h₃ =>
              intro h
              obtain ⟨p, hp⟩ := exists_begun_four pos (by omega : 0x10000 ≤ c.toNat) (by omega)
              rw [List.cons_append, hp.decodeFrom_eq (by omega) (by omega)]
              obtain ⟨-, howed, hvalue, hlo, hhi⟩ := hp
              rw [List.cons_append, decodeFrom_next (by omega) (by omega) hlo hhi, List.cons_append,
                decodeFrom_next (by dsimp only; omega) (by omega) (by dsimp only; omega)
                  (by dsimp only; omega)]
              refine decodeFrom_last ?_ (by omega) ?_ ?_ ?_ h <;> dsimp only <;> omega

theorem decodeFrom_encode (t : Text) (pos : Nat) : decodeFrom pos none (encode t) = .ok t := by
  induction t generalizing pos with
  | nil => rfl
  | cons c t ih =>
      rw [encode, List.flatMap_cons]
      exact decodeFrom_encodeChar c (ih _)

/-- **What was written is read.** -/
@[simp] theorem decode_encode (t : Text) : decode (encode t) = .ok t := decodeFrom_encode t 0

/-! ### What is read was written -/

variable {b : Bytes} {t : Text}

theorem exists_of_map_cons {c : Char} {x : Except Fault Text} (h : (c :: ·) <$> x = .ok t) :
    ∃ t', x = .ok t' ∧ t = c :: t' := by
  cases x with
  | error f => cases h
  | ok t' =>
      cases h
      exact ⟨t', rfl, rfl⟩

/-- A continuation byte with the six bits that it adds, within the bounds for it. -/
structure Continues (p : Pending) (x : UInt8) (m : Nat) : Prop where
  eq_ofNat : x = UInt8.ofNat (0x80 + m)
  lt : m < 0x40
  least_le : p.least.toNat ≤ 0x80 + m
  le_greatest : 0x80 + m ≤ p.greatest.toNat

/-- Bounds that admit continuation bytes only. -/
def Bounded (p : Pending) : Prop := 0x80 ≤ p.least.toNat ∧ p.greatest.toNat ≤ 0xBF

theorem bounded_mk {owed value start : Nat} {lead : UInt8} :
    Bounded ⟨owed, 0x80, 0xBF, value, lead, start⟩ := ⟨Nat.le_refl 0x80, Nat.le_refl 0xBF⟩

/-- A byte that is not outside its bounds continues a character. -/
theorem exists_continues {x : UInt8} (hp : Bounded p) (hx : ¬(x < p.least ∨ p.greatest < x)) :
    ∃ m, Continues p x m ∧ x.toNat % 0x40 = m := by
  obtain ⟨hlo, hhi⟩ := hp
  rw [UInt8.lt_iff_toNat_lt, UInt8.lt_iff_toNat_lt] at hx
  have hx' : x = UInt8.ofNat (0x80 + (x.toNat - 0x80)) := by
    rw [show 0x80 + (x.toNat - 0x80) = x.toNat by omega, UInt8.ofNat_toNat]
  exact ⟨x.toNat - 0x80, ⟨hx', by omega, by omega, by omega⟩, by omega⟩

/-- What was read behind the beginning of a character. -/
theorem exists_of_decodeFrom_some (hp : Bounded p) (h : decodeFrom pos (some p) b = .ok t) :
    ∃ x m r, b = x :: r ∧ Continues p x m ∧
      (if p.owed ≤ 1 then
        (Char.ofNat (p.value * 0x40 + m) :: ·) <$> decodeFrom (pos + 1) none r
      else decodeFrom (pos + 1) (some { p with
        owed := p.owed - 1, least := 0x80, greatest := 0xBF, value := p.value * 0x40 + m }) r) =
          .ok t := by
  cases b with
  | nil => cases h
  | cons x r =>
      rw [decodeFrom] at h
      split at h
      · cases h
      · next hx =>
          obtain ⟨m, hm, hbits⟩ := exists_continues hp hx
          rw [hbits] at h
          exact ⟨x, m, r, rfl, hm, h⟩

/-- What was read behind a byte that more are owed behind. -/
theorem exists_of_decodeFrom_next (hp : Bounded p) (howed : 1 < p.owed)
    (h : decodeFrom pos (some p) b = .ok t) :
    ∃ x m r, b = x :: r ∧ Continues p x m ∧ decodeFrom (pos + 1) (some { p with
      owed := p.owed - 1, least := 0x80, greatest := 0xBF, value := p.value * 0x40 + m }) r =
        .ok t := by
  obtain ⟨x, m, r, hb, hm, hr⟩ := exists_of_decodeFrom_some hp h
  rw [if_neg (Nat.not_le.2 howed)] at hr
  exact ⟨x, m, r, hb, hm, hr⟩

/-- What was read behind the last byte of a character. -/
theorem exists_of_decodeFrom_last (hp : Bounded p) (howed : p.owed = 1)
    (h : decodeFrom pos (some p) b = .ok t) :
    ∃ x m r t', b = x :: r ∧ Continues p x m ∧ t = Char.ofNat (p.value * 0x40 + m) :: t' ∧
      decodeFrom (pos + 1) none r = .ok t' := by
  obtain ⟨x, m, r, hb, hm, hr⟩ := exists_of_decodeFrom_some hp h
  rw [if_pos (Nat.le_of_eq howed)] at hr
  obtain ⟨t', hr, ht⟩ := exists_of_map_cons hr
  exact ⟨x, m, r, t', hb, hm, ht, hr⟩

theorem toNat_ofNat_char {n : Nat} (h : n < 0xD800 ∨ 0xDFFF < n ∧ n < 0x110000) :
    (Char.ofNat n).toNat = n := by
  have hvalid : n.isValidChar := h
  rw [Char.ofNat, dif_pos hvalid]
  rfl

/-- The bounds on the byte behind a lead byte. -/
theorem bounded_of_pending? {x : UInt8} (h : pending? x pos = some p) : Bounded p := by
  simp only [pending?] at h
  split_ifs at h <;> cases h <;> refine ⟨?_, ?_⟩ <;> (dsimp only; decide)

/-- What a lead byte begins: the number of bytes owed, and the bits of the character. -/
theorem pending?_cases {x : UInt8} (h : pending? x pos = some p) :
    (p.owed = 1 ∧ x.toNat = 0xC0 + p.value ∧ 2 ≤ p.value ∧ p.value < 0x20) ∨
    (p.owed = 2 ∧ x.toNat = 0xE0 + p.value ∧ p.value < 0x10) ∨
    (p.owed = 3 ∧ x.toNat = 0xF0 + p.value) := by
  have hx := x.toNat_lt
  rw [← UInt8.ofNat_toNat (x := x), pending?_ofNat hx] at h
  dsimp only at h
  split_ifs at h <;> cases h <;> dsimp only <;> omega

/-- What the bounds on the byte behind a lead byte leave for the number of the character. -/
theorem Continues.value_of_pending? {x y : UInt8} (hm : Continues p y m)
    (h : pending? x pos = some p) :
    (p.owed = 2 → 0x20 ≤ p.value * 0x40 + m ∧
      (p.value * 0x40 + m < 0x360 ∨ 0x37F < p.value * 0x40 + m)) ∧
    (p.owed = 3 → 0x10 ≤ p.value * 0x40 + m ∧ p.value * 0x40 + m < 0x110) := by
  have h8F : UInt8.toNat 0x8F = 0x8F := rfl
  have h90 : UInt8.toNat 0x90 = 0x90 := rfl
  have h9F : UInt8.toNat 0x9F = 0x9F := rfl
  have hA0 : UInt8.toNat 0xA0 = 0xA0 := rfl
  have hx := x.toNat_lt
  obtain ⟨-, hlt, hlo, hhi⟩ := hm
  rw [← UInt8.ofNat_toNat (x := x), pending?_ofNat hx] at h
  dsimp only at h
  split_ifs at h <;> cases h <;> dsimp only at hlo hhi ⊢ <;> omega

theorem encodeChar_one {n : Nat} (h : n < 0x80) : encodeChar (Char.ofNat n) = [UInt8.ofNat n] := by
  rw [encodeChar, toNat_ofNat_char (by omega)]
  exact if_pos h

theorem encodeChar_two {n m : Nat} (hm : m < 0x40) (h₁ : 2 ≤ n) (h₂ : n < 0x20) :
    encodeChar (Char.ofNat (n * 0x40 + m)) = [UInt8.ofNat (0xC0 + n), UInt8.ofNat (0x80 + m)] := by
  rw [encodeChar, toNat_ofNat_char (by omega)]
  rw [if_neg (by omega), if_pos (by omega), show (n * 0x40 + m) / 0x40 = n by omega,
    show (n * 0x40 + m) % 0x40 = m by omega]

theorem encodeChar_three {n m₁ m₂ : Nat} (hm₁ : m₁ < 0x40) (hm₂ : m₂ < 0x40) (h₁ : n < 0x10)
    (h₂ : 0x20 ≤ n * 0x40 + m₁)
    (h₃ : n * 0x40 + m₁ < 0x360 ∨ 0x37F < n * 0x40 + m₁) :
    encodeChar (Char.ofNat ((n * 0x40 + m₁) * 0x40 + m₂)) =
      [UInt8.ofNat (0xE0 + n), UInt8.ofNat (0x80 + m₁), UInt8.ofNat (0x80 + m₂)] := by
  rw [encodeChar, toNat_ofNat_char (by omega)]
  rw [if_neg (by omega), if_neg (by omega), if_pos (by omega),
    show ((n * 0x40 + m₁) * 0x40 + m₂) / 0x1000 = n by omega,
    show ((n * 0x40 + m₁) * 0x40 + m₂) / 0x40 % 0x40 = m₁ by omega,
    show ((n * 0x40 + m₁) * 0x40 + m₂) % 0x40 = m₂ by omega]

theorem encodeChar_four {n m₁ m₂ m₃ : Nat} (hm₁ : m₁ < 0x40) (hm₂ : m₂ < 0x40) (hm₃ : m₃ < 0x40)
    (h₁ : 0x10 ≤ n * 0x40 + m₁) (h₂ : n * 0x40 + m₁ < 0x110) :
    encodeChar (Char.ofNat (((n * 0x40 + m₁) * 0x40 + m₂) * 0x40 + m₃)) =
      [UInt8.ofNat (0xF0 + n), UInt8.ofNat (0x80 + m₁), UInt8.ofNat (0x80 + m₂),
        UInt8.ofNat (0x80 + m₃)] := by
  rw [encodeChar, toNat_ofNat_char (by omega)]
  rw [if_neg (by omega), if_neg (by omega), if_neg (by omega),
    show (((n * 0x40 + m₁) * 0x40 + m₂) * 0x40 + m₃) / 0x40000 = n by omega,
    show (((n * 0x40 + m₁) * 0x40 + m₂) * 0x40 + m₃) / 0x1000 % 0x40 = m₁ by omega,
    show (((n * 0x40 + m₁) * 0x40 + m₂) * 0x40 + m₃) / 0x40 % 0x40 = m₂ by omega,
    show (((n * 0x40 + m₁) * 0x40 + m₂) * 0x40 + m₃) % 0x40 = m₃ by omega]

/-- **The bytes from which a text was read begin with those of its first character.** -/
theorem exists_of_decodeFrom_cons {x : UInt8} (h : decodeFrom pos none (x :: b) = .ok t) :
    ∃ c t' pos' r, x :: b = encodeChar c ++ r ∧ t = c :: t' ∧ decodeFrom pos' none r = .ok t' := by
  rw [decodeFrom] at h
  split at h
  · next hx =>
      rw [UInt8.lt_iff_toNat_lt] at hx
      obtain ⟨t', hr, rfl⟩ := exists_of_map_cons h
      refine ⟨_, t', _, b, ?_, rfl, hr⟩
      rw [encodeChar_one hx, UInt8.ofNat_toNat]
      rfl
  · next hx =>
      split at h
      · cases h
      · next p hp =>
          have hlead : UInt8.ofNat x.toNat = x := UInt8.ofNat_toNat
          -- one case for each number of bytes owed
          rcases pending?_cases hp with ⟨howed, hx, h₁, h₂⟩ | ⟨howed, hx, h₁⟩ | ⟨howed, hx⟩
          · obtain ⟨y, m, r, t', rfl, hm, rfl, hr⟩ :=
              exists_of_decodeFrom_last (bounded_of_pending? hp) howed h
            refine ⟨_, t', _, r, ?_, rfl, hr⟩
            rw [encodeChar_two hm.lt h₁ h₂, ← hx, hlead, ← hm.eq_ofNat]
            rfl
          · obtain ⟨y, m₁, r₁, rfl, hm₁, h⟩ :=
              exists_of_decodeFrom_next (bounded_of_pending? hp) (by omega) h
            obtain ⟨z, m₂, r, t', rfl, hm₂, rfl, hr⟩ :=
              exists_of_decodeFrom_last bounded_mk (by dsimp only; omega) h
            obtain ⟨h₂, h₃⟩ := (hm₁.value_of_pending? hp).1 howed
            refine ⟨_, t', _, r, ?_, rfl, hr⟩
            rw [encodeChar_three hm₁.lt hm₂.lt h₁ h₂ h₃, ← hx, hlead, ← hm₁.eq_ofNat,
              ← hm₂.eq_ofNat]
            rfl
          · obtain ⟨y, m₁, r₁, rfl, hm₁, h⟩ :=
              exists_of_decodeFrom_next (bounded_of_pending? hp) (by omega) h
            obtain ⟨z, m₂, r₂, rfl, hm₂, h⟩ :=
              exists_of_decodeFrom_next bounded_mk (by dsimp only; omega) h
            obtain ⟨u, m₃, r, t', rfl, hm₃, rfl, hr⟩ :=
              exists_of_decodeFrom_last bounded_mk (by dsimp only; omega) h
            obtain ⟨h₁, h₂⟩ := (hm₁.value_of_pending? hp).2 howed
            refine ⟨_, t', _, r, ?_, rfl, hr⟩
            rw [encodeChar_four hm₁.lt hm₂.lt hm₃.lt h₁ h₂, ← hx, hlead, ← hm₁.eq_ofNat,
              ← hm₂.eq_ofNat, ← hm₃.eq_ofNat]
            rfl

/-- Bytes from which a text is read are the bytes of that text. -/
theorem eq_encode_of_decodeFrom (h : decodeFrom pos none b = .ok t) : b = encode t := by
  induction t generalizing pos b with
  | nil =>
      cases b with
      | nil => rfl
      | cons x b =>
          obtain ⟨c, t', -, -, -, ht, -⟩ := exists_of_decodeFrom_cons h
          cases ht
  | cons c t ih =>
      cases b with
      | nil => cases h
      | cons x b =>
          obtain ⟨c', t', pos', r, hb, ht, hr⟩ := exists_of_decodeFrom_cons h
          cases ht
          rw [hb, ih hr]
          rfl

/-- **Exactly what was written is read.** -/
theorem decode_eq_ok_iff : decode b = .ok t ↔ b = encode t := by
  constructor
  · exact eq_encode_of_decodeFrom
  · rintro rfl
    exact decode_encode t

end Utf8

end InlineSecrets
