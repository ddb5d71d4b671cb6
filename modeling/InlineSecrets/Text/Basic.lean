/-
**Texts, offsets and slices.**

A text is the list of its characters, so lengths and offsets count characters.  An offset may be
negative, which counts from the end, and one that lies outside the text names its nearer end; so
every pair of offsets names a slice.

Main definitions:

* `InlineSecrets.Text` — texts;
* `InlineSecrets.Text.place` — the number of characters in front of an offset;
* `InlineSecrets.Text.slice`, `InlineSecrets.Text.splice` — cutting a slice out, and putting a text
  in its place;
* `InlineSecrets.Text.split` — the parts between the occurrences of a separator.
-/

set_option relaxedAutoImplicit false
set_option autoImplicit false

namespace InlineSecrets

/-- A text is the list of its characters. -/
abbrev Text := List Char

namespace Text

/-- The string with these characters. -/
abbrev toString (t : Text) : String := String.ofList t

/-! ### Offsets and slices -/

/-- The number of characters in front of offset `i` of a text of length `n`: a negative offset
counts from the end, and one outside the text names the nearer end. -/
def place (n : Nat) (i : Int) : Nat :=
  if i < 0 then (i + n).toNat else min i.toNat n

@[simp] theorem place_natCast {n k : Nat} (h : k ≤ n) : place n (k : Int) = k := by
  unfold place; split <;> omega

/-- The characters from offset `i` up to offset `j`; none when `j` does not come after `i`. -/
def slice (t : Text) (i j : Int) : Text :=
  (t.take (place t.length j)).drop (place t.length i)

theorem slice_natCast (t : Text) {i j : Nat} (hi : i ≤ t.length) (hj : j ≤ t.length) :
    t.slice (i : Int) (j : Int) = (t.take j).drop i := by
  simp [slice, hi, hj]

/-- Puts `r` in place of what lies between the offsets `i` and `j`. -/
def splice (t : Text) (i j : Int) (r : Text) : Text :=
  t.take (place t.length i) ++ r ++ t.drop (place t.length j)

theorem splice_natCast (t r : Text) {i j : Nat} (hi : i ≤ t.length) (hj : j ≤ t.length) :
    t.splice (i : Int) (j : Int) r = t.take i ++ r ++ t.drop j := by
  simp [splice, hi, hj]

/-! ### Parts -/

/-- The parts between the occurrences of `sep`, in order; there is always at least one. -/
def split (sep : Char) : Text → List Text
  | [] => [[]]
  | c :: r =>
      if c = sep then [] :: split sep r
      else match split sep r with
        | [] => [[c]]
        | p :: ps => (c :: p) :: ps

/-- What follows `p`, when the text starts with it. -/
def after? : Text → Text → Option Text
  | [], t => some t
  | _ :: _, [] => none
  | p :: ps, c :: r => if p = c then after? ps r else none

theorem after?_eq_some_iff {p t r : Text} : after? p t = some r ↔ t = p ++ r := by
  induction p generalizing t with
  | nil => simp [after?, eq_comm]
  | cons c p ih =>
      cases t with
      | nil => simp [after?]
      | cons d t =>
          by_cases h : c = d
          · simp [after?, h, ih]
          · simp [after?, h, Ne.symm h]

@[simp] theorem after?_append (p t : Text) : after? p (p ++ t) = some t :=
  after?_eq_some_iff.2 rfl

/-- The part in front of the first `sep` and the part behind it, when there is one. -/
def cut? (sep : Char) : Text → Option (Text × Text)
  | [] => none
  | c :: r => if c = sep then some ([], r) else (cut? sep r).map fun p => (c :: p.1, p.2)

theorem cut?_eq_some_iff {sep : Char} {t a b : Text} :
    cut? sep t = some (a, b) ↔ t = a ++ sep :: b ∧ sep ∉ a := by
  induction t generalizing a with
  | nil => simp [cut?]
  | cons c r ih =>
      by_cases h : c = sep
      · subst h
        cases a with
        | nil => simp [cut?, eq_comm]
        | cons d a =>
            simp only [cut?, if_true, Option.some.injEq, Prod.mk.injEq, reduceCtorEq, false_and,
              false_iff, List.cons_append, List.cons.injEq, List.mem_cons, not_and, not_or]
            rintro ⟨rfl, -⟩
            simp
      · cases a with
        | nil => simp [cut?, h]
        | cons d a =>
            simp only [cut?, h, if_false, Option.map_eq_some_iff, Prod.mk.injEq, List.cons.injEq,
              Prod.exists, List.cons_append, List.mem_cons, not_or]
            constructor
            · rintro ⟨x, y, hxy, ⟨rfl, rfl⟩, rfl⟩
              obtain ⟨rfl, hm⟩ := ih.1 hxy
              exact ⟨⟨rfl, rfl⟩, Ne.symm h, hm⟩
            · rintro ⟨⟨rfl, rfl⟩, -, hm⟩
              exact ⟨a, b, ih.2 ⟨rfl, hm⟩, ⟨rfl, rfl⟩, rfl⟩

/-- The texts one after the other, with `sep` between them. -/
def join (sep : Text) : List Text → Text
  | [] => []
  | [t] => t
  | t :: u :: r => t ++ sep ++ join sep (u :: r)

/-- The text with ASCII capitals in lower case. -/
def lowerAscii (t : Text) : Text := t.map Char.toLower

/-- The lower case of a Latin letter; the signs for the kelvin and the ångström are letters, too. -/
def lowerLetter (c : Char) : Char :=
  if c = '\u212A' then 'k'
  else if c = '\u212B' then 'å'
  else if 'À' ≤ c ∧ c ≤ 'Þ' ∧ c ≠ '×' then Char.ofNat (c.toNat + 32)
  else c.toLower

/-- The text with the capitals of ASCII and Latin-1 in lower case. -/
def lowerLatin (t : Text) : Text := t.map lowerLetter

/-- The decimal digits of a number. -/
def ofNat (n : Nat) : Text := Nat.toDigits 10 n

/-- The decimal digits of an integer, behind a minus sign when it is negative. -/
def ofInt (i : Int) : Text :=
  if i < 0 then '-' :: ofNat i.natAbs else ofNat i.natAbs

end Text

end InlineSecrets
