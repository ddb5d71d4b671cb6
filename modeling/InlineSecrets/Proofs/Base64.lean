/-
**Base64 reads back what it writes.**

Written texts consist of letters of the alphabet and padding signs only, which is what keeps them
apart from whatever they are put into.

Main definitions:

* `InlineSecrets.Base64.sextets` — the values of the letters that some bytes are written with;
* `InlineSecrets.Base64.isSign` — letters and the padding sign.

Main results:

* `InlineSecrets.Base64.isSign_of_mem_encode` — written texts consist of signs;
* `InlineSecrets.Base64.decode_encode` — **what was written is read.**
-/

import InlineSecrets.Base64

set_option relaxedAutoImplicit false
set_option autoImplicit false

namespace InlineSecrets

namespace Base64

/-! ### Signs -/

/-- A letter of the alphabet, or the padding sign. -/
def isSign (c : Char) : Bool := c = '=' || (value? c).isSome

theorem isSign_letter {v : Nat} (h : v < 64) : isSign (letter v) = true := by
  simp [isSign, value?_letter v h]

theorem letter_ne_padding {v : Nat} (h : v < 64) : letter v ≠ '=' := by
  intro heq
  have hv := value?_letter v h
  rw [heq, show value? '=' = none from by decide] at hv
  cases hv

theorem value?_eq_none {c : Char} (h : 0x80 ≤ c.toNat) : value? c = none := by
  have hle : ∀ {d : Char}, d.toNat < 0x80 → ¬c ≤ d := by
    intro d hd hcd
    exact absurd (Nat.lt_of_le_of_lt hcd hd) (Nat.not_lt.2 h)
  have hne : ∀ {d : Char}, d.toNat < 0x80 → c ≠ d := by
    rintro d hd rfl
    exact absurd hd (Nat.not_lt.2 h)
  rw [value?, if_neg fun h => hle (by decide) h.2, if_neg fun h => hle (by decide) h.2,
    if_neg fun h => hle (by decide) h.2, if_neg (hne (by decide)), if_neg (hne (by decide))]

/-- All signs are ASCII. -/
theorem toNat_lt_of_isSign {c : Char} (h : isSign c = true) : c.toNat < 0x80 := by
  rw [isSign, Bool.or_eq_true, decide_eq_true_eq] at h
  refine Nat.lt_of_not_le fun hc => ?_
  rcases h with rfl | h
  · exact absurd hc (by decide)
  · rw [value?_eq_none hc] at h
    cases h

/-! ### The letters of some bytes -/

/-- The values of the letters that some bytes are written with. -/
def sextets : Bytes → List Nat
  | [] => []
  | [x] => [x.toNat / 4, x.toNat % 4 * 16]
  | [x, y] => [x.toNat / 4, x.toNat % 4 * 16 + y.toNat / 16, y.toNat % 16 * 4]
  | x :: y :: z :: r =>
      (x.toNat / 4) :: (x.toNat % 4 * 16 + y.toNat / 16) :: (y.toNat % 16 * 4 + z.toNat / 64) ::
        (z.toNat % 64) :: sextets r

/-- The bounds on the values of the letters for three bytes. -/
theorem sextet_lt (x y z : UInt8) :
    x.toNat / 4 < 64 ∧ x.toNat % 4 * 16 < 64 ∧ x.toNat % 4 * 16 + y.toNat / 16 < 64 ∧
      y.toNat % 16 * 4 < 64 ∧ y.toNat % 16 * 4 + z.toNat / 64 < 64 ∧ z.toNat % 64 < 64 := by
  have hx := x.toNat_lt
  have hy := y.toNat_lt
  have hz := z.toNat_lt
  omega

/-- Written texts consist of signs. -/
theorem isSign_of_mem_encode {b : Bytes} {c : Char} (h : c ∈ encode b) : isSign c = true := by
  have hpad : isSign '=' = true := by decide
  fun_induction encode b with
  | case1 => cases h
  | case2 x =>
      obtain ⟨h₁, h₂, -⟩ := sextet_lt x 0 0
      simp only [List.mem_cons, List.not_mem_nil, or_false] at h
      rcases h with rfl | rfl | rfl | rfl
      · exact isSign_letter h₁
      · exact isSign_letter h₂
      · exact hpad
      · exact hpad
  | case3 x y =>
      obtain ⟨h₁, -, h₃, h₄, -⟩ := sextet_lt x y 0
      simp only [List.mem_cons, List.not_mem_nil, or_false] at h
      rcases h with rfl | rfl | rfl | rfl
      · exact isSign_letter h₁
      · exact isSign_letter h₃
      · exact isSign_letter h₄
      · exact hpad
  | case4 x y z r ih =>
      obtain ⟨h₁, -, h₃, -, h₅, h₆⟩ := sextet_lt x y z
      simp only [List.mem_cons] at h
      rcases h with rfl | rfl | rfl | rfl | h
      · exact isSign_letter h₁
      · exact isSign_letter h₃
      · exact isSign_letter h₅
      · exact isSign_letter h₆
      · exact ih h

theorem encode_ne_nil {b : Bytes} (h : b ≠ []) : encode b ≠ [] := by
  fun_cases encode b with
  | case1 => exact absurd rfl h
  | case2 | case3 | case4 => exact List.cons_ne_nil _ _

/-- Bytes that are not a multiple of three end with padding. -/
theorem getLast?_encode {b : Bytes} (h : b.length % 3 ≠ 0) : (encode b).getLast? = some '=' := by
  fun_induction encode b with
  | case1 => exact absurd rfl h
  | case2 x => rfl
  | case3 x y => rfl
  | case4 x y z r ih =>
      have hr : r.length % 3 ≠ 0 := by
        rw [List.length_cons, List.length_cons, List.length_cons] at h
        omega
      simp [List.getLast?_cons, ih hr]

/-! ### Reading what was written -/

/-- Reading a letter. -/
theorem lettersFrom_letter {n p v : Nat} {r : Text} {vs : List Nat} (hv : v < 64)
    (h : lettersFrom (n + 1) 0 false r = .ok vs) :
    lettersFrom n p false (letter v :: r) = .ok (v :: vs) := by
  rw [lettersFrom, if_neg (letter_ne_padding hv), value?_letter v hv]
  simp only [Bool.false_eq_true, if_false, h]
  rfl

/-- The letters of a written text, from the beginning of a group on. -/
theorem lettersFrom_encode (b : Bytes) {n : Nat} (hn : n % 4 = 0) :
    lettersFrom n 0 false (encode b) = .ok (sextets b) := by
  fun_induction encode b generalizing n with
  | case1 => simp [lettersFrom, sextets, hn]
  | case2 x =>
      obtain ⟨h₁, h₂, -⟩ := sextet_lt x 0 0
      refine lettersFrom_letter h₁ (lettersFrom_letter h₂ ?_)
      simp [lettersFrom, show (n + 1 + 1) % 4 = 2 by omega]
  | case3 x y =>
      obtain ⟨h₁, -, h₃, h₄, -⟩ := sextet_lt x y 0
      refine lettersFrom_letter h₁ (lettersFrom_letter h₃ (lettersFrom_letter h₄ ?_))
      simp [lettersFrom, show (n + 1 + 1 + 1) % 4 = 3 by omega]
  | case4 x y z r ih =>
      obtain ⟨h₁, -, h₃, -, h₅, h₆⟩ := sextet_lt x y z
      have hr := ih (n := n + 1 + 1 + 1 + 1) (by omega)
      exact lettersFrom_letter h₁ (lettersFrom_letter h₃ (lettersFrom_letter h₅
        (lettersFrom_letter h₆ hr)))

theorem head?_encode_ne (b : Bytes) : (encode b).head? ≠ some '=' := by
  fun_cases encode b with
  | case1 => simp
  | case2 x => simpa using letter_ne_padding (sextet_lt x 0 0).1
  | case3 x y => simpa using letter_ne_padding (sextet_lt x y 0).1
  | case4 x y z r => simpa using letter_ne_padding (sextet_lt x y z).1

theorem letters_encode (b : Bytes) : letters (encode b) = .ok (sextets b) := by
  have hascii : (encode b).any (fun c => 0x80 ≤ c.toNat) = false := by
    rw [List.any_eq_false]
    intro c hc
    have := toNat_lt_of_isSign (isSign_of_mem_encode hc)
    simp only [decide_eq_true_eq]
    omega
  rw [letters, hascii, if_neg (by simp), if_neg (head?_encode_ne b), lettersFrom_encode b rfl]

/-- Six bits of one byte and two of the next make up the first byte again, and so on. -/
theorem ofNat_sextets (x y z : UInt8) :
    UInt8.ofNat (x.toNat / 4 * 4 + (x.toNat % 4 * 16 + y.toNat / 16) / 16) = x ∧
      UInt8.ofNat ((x.toNat % 4 * 16 + y.toNat / 16) % 16 * 16 +
        (y.toNat % 16 * 4 + z.toNat / 64) / 4) = y ∧
      UInt8.ofNat ((y.toNat % 16 * 4 + z.toNat / 64) % 4 * 64 + z.toNat % 64) = z := by
  have hx := x.toNat_lt
  have hy := y.toNat_lt
  have hz := z.toNat_lt
  have hofNat : ∀ {n : Nat} {w : UInt8}, n = w.toNat → UInt8.ofNat n = w := by
    rintro _ w rfl
    exact UInt8.ofNat_toNat
  exact ⟨hofNat (by omega), hofNat (by omega), hofNat (by omega)⟩

@[simp] theorem pack_sextets (b : Bytes) : pack (sextets b) = b := by
  fun_induction sextets b with
  | case1 => rfl
  | case2 x =>
      obtain ⟨h₁, -⟩ := ofNat_sextets x 0 0
      simpa [pack] using h₁
  | case3 x y =>
      obtain ⟨h₁, h₂, -⟩ := ofNat_sextets x y 0
      simp only [pack, h₁]
      simpa using h₂
  | case4 x y z r ih =>
      obtain ⟨h₁, h₂, h₃⟩ := ofNat_sextets x y z
      rw [pack, h₁, h₂, h₃, ih]

/-- **What was written is read.** -/
@[simp] theorem decode_encode (b : Bytes) : decode (encode b) = .ok b := by
  rw [decode, letters_encode]
  exact congrArg Except.ok (pack_sextets b)

end Base64

end InlineSecrets
