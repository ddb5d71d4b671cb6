/-
**Canonical texts are read back.**

A reader of JSON texts takes a value from the front of a text, with blanks wherever they may stand,
and leaves the rest.  What it makes of the text of a value, as it is written in the order of the
entries that it has, is that value again: the parts of a text are closed by what stands behind them,
and an escape stands for the character that it was made from.  The text of a number with a point or
an exponent is read as the nearest double, of which nothing is said here.

Main definitions:

* `InlineSecrets.Json.readString?`, `InlineSecrets.Json.readNumber?`,
  `InlineSecrets.Json.readSequence?` — the parts of JSON texts;
* `InlineSecrets.Json.read?` — **the value that a JSON text denotes;**
* `InlineSecrets.Json.FloatFree` — values without doubles in them.

Main results:

* `InlineSecrets.Json.readString?_quote` — a quoted text is read back;
* `InlineSecrets.Json.readNumber?_ofInt` — so is an integer;
* `InlineSecrets.Json.readSequence?_join` — so is what stands in brackets;
* `InlineSecrets.Json.read?_canonical` — **so is the arranged value from its canonical text.**
-/

import InlineSecrets.Number.Reading
import InlineSecrets.Proofs.Json.Compact

set_option relaxedAutoImplicit false
set_option autoImplicit false

namespace InlineSecrets

namespace Json

/-! ### Strings -/

/-- The unit of 16 bits that four hexadecimal digits write, and the rest. -/
def readUnit? : Text → Option (Nat × Text)
  | a :: b :: c :: d :: r =>
      ([a, b, c, d].mapM Text.hexValue?).map fun ds => (ds.foldl (fun n d => n * 16 + d) 0, r)
  | _ => none

/-- The character that two units write, if they are a pair. -/
def ofPair? (high low : Nat) : Option Char :=
  if 0xDC00 ≤ low ∧ low < 0xE000 then
    some (Char.ofNat (0x10000 + (high - 0xD800) * 0x400 + (low - 0xDC00)))
  else none

/-- The character that an escape stands for, behind the backslash, and the rest.  A unit that is one
half of a pair does not stand alone. -/
def readEscape? : Text → Option (Char × Text)
  | [] => none
  | c :: r =>
      if c = 'u' then
        (readUnit? r).bind fun (n, r) =>
          if 0xD800 ≤ n ∧ n < 0xDC00 then
            (Text.after? ['\\', 'u'] r).bind readUnit? |>.bind fun (m, r) =>
              (ofPair? n m).map (·, r)
          else if 0xDC00 ≤ n ∧ n < 0xE000 then none
          else some (Char.ofNat n, r)
      else (Assoc.get? shortEscapes c).map (·, r)

/-- The characters of a string up to its end, and the rest, for strings with fewer characters than a
number. -/
def readChars? : Nat → Text → Option (Text × Text)
  | n + 1, c :: r =>
      if c = '"' then some ([], r)
      else
        (if c = '\\' then readEscape? r else if ' ' ≤ c then some (c, r) else none).bind
          fun (d, r) => (readChars? n r).map fun (t, r) => (d :: t, r)
  | _, _ => none

/-- The text that a string denotes, behind its first quote, and the rest. -/
def readString? (t : Text) : Option (Text × Text) := readChars? t.length t

/-! ### Numbers and names -/

/-- The digits at the front of a text, of which there is one at least, and the rest. -/
def readDigits? (t : Text) : Option (Text × Text) :=
  let ds := t.takeWhile Text.isAsciiDigit
  if ds = [] then none else some (ds, t.dropWhile Text.isAsciiDigit)

/-- A point with digits behind it, if there is a point, and the rest. -/
def readFraction? : Text → Option (Text × Text)
  | '.' :: r => (readDigits? r).map fun (ds, r) => ('.' :: ds, r)
  | r => some ([], r)

/-- The sign at the front of a text, if there is one, and the rest. -/
def readSign : Text → Text × Text
  | '+' :: r => (['+'], r)
  | '-' :: r => (['-'], r)
  | r => ([], r)

/-- An exponent, if there is one, and the rest. -/
def readExponent? : Text → Option (Text × Text)
  | c :: r =>
      if c = 'e' ∨ c = 'E' then
        let (sign, r) := readSign r
        (readDigits? r).map fun (ds, r) => (c :: sign ++ ds, r)
      else some ([], c :: r)
  | [] => some ([], [])

/-- A number without a sign in front, and the rest: an integer, or a double if there is a point or
an exponent.  A zero in front of other digits is no part of a number. -/
def readMagnitude? (negative : Bool) (t : Text) : Option (Json × Text) :=
  (readDigits? t).bind fun (whole, r) =>
    if whole.head? = some '0' ∧ whole ≠ ['0'] then none
    else
      (readFraction? r).bind fun (fraction, r) =>
        (readExponent? r).bind fun (exponent, r) =>
          if fraction = [] ∧ exponent = [] then
            let n : Int := Text.ofAsciiDigits whole
            some (.int (if negative then -n else n), r)
          else
            let sign := if negative then ['-'] else []
            (Text.readDecimal? (sign ++ whole ++ fraction ++ exponent)).map (.float ·, r)

/-- A number at the front of a text, and the rest. -/
def readNumber? : Text → Option (Json × Text)
  | '-' :: r => readMagnitude? true r
  | r => readMagnitude? false r

/-- The values that have names. -/
def names : List (Text × Json) :=
  [("null".toList, .null), ("true".toList, .bool true), ("false".toList, .bool false)]

/-- A value with a name at the front of a text, and the rest. -/
def readName? (t : Text) : Option (Json × Text) :=
  names.findSome? fun (name, j) => (Text.after? name t).map (j, ·)

/-! ### Values -/

/-- The blanks that may stand between the parts of a JSON text. -/
def isGap (c : Char) : Bool := c = ' ' || c = '\t' || c = '\n' || c = '\r'

/-- The text without the blanks in front. -/
def skipGaps (t : Text) : Text := t.dropWhile isGap

section

variable {α : Type} (close : Char) (item : Text → Option (α × Text))

/-- One or more items with commas between them, up to what closes them, and the rest, for no more
items than a number. -/
def readItems? : Nat → Text → Option (List α × Text)
  | 0, _ => none
  | n + 1, t =>
      (item t).bind fun (x, r) =>
        match skipGaps r with
        | [] => none
        | c :: r =>
            if c = close then some ([x], r)
            else if c = ',' then (readItems? n r).map fun (xs, r) => (x :: xs, r)
            else none

/-- Items with commas between them, up to what closes them, and the rest. -/
def readSequence? (t : Text) : Option (List α × Text) :=
  match skipGaps t with
  | [] => none
  | c :: r => if c = close then some ([], r) else readItems? close item t.length t

end

/-- An entry of a mapping: a string, a colon and a value; and the rest. -/
def readPair? (value : Text → Option (Json × Text)) (t : Text) :
    Option ((Text × Json) × Text) :=
  match skipGaps t with
  | '"' :: r =>
      (readString? r).bind fun (k, r) =>
        match skipGaps r with
        | ':' :: r => (value r).map fun (j, r) => ((k, j), r)
        | _ => none
  | _ => none

/-- A value at the front of a text, and the rest, for values that are less deep than a number.  Of
several entries for a key the last one counts. -/
def readValue? : Nat → Text → Option (Json × Text)
  | 0, _ => none
  | n + 1, t =>
      match skipGaps t with
      | [] => none
      | c :: r =>
          if c = '"' then (readString? r).map fun (t, r) => (.text t, r)
          else if c = '[' then
            (readSequence? ']' (readValue? n) r).map fun (items, r) => (.list items, r)
          else if c = '\x7B' then
            (readSequence? '\x7D' (readPair? (readValue? n)) r).map fun (es, r) =>
              (.map (Assoc.ofEntries es), r)
          else (readName? (c :: r)).or (readNumber? (c :: r))

/-- **The value that a JSON text denotes:** one value, and nothing but blanks behind it. -/
def read? (t : Text) : Option Json :=
  (readValue? t.length t).bind fun (j, r) => if skipGaps r = [] then some j else none

/-! ### Strings are read back -/

section

variable {c : Char} {n : Nat} {t r : Text}

/-- **A unit is read back.** -/
theorem readUnit?_hexadecimal (hn : n < 0x10000) (r : Text) :
    readUnit? (Text.hexadecimal 4 n ++ r) = some (n, r) := by
  have hdigit : ∀ k < 16, Text.hexValue? k.digitChar = some k := by decide
  rw [Text.hexadecimal_four hn]
  simp only [List.cons_append, List.nil_append, readUnit?, List.mapM_cons, List.mapM_nil,
    hdigit _ (show n / 0x1000 < 16 by omega), hdigit _ (show n / 0x100 % 16 < 16 by omega),
    hdigit _ (show n / 0x10 % 16 < 16 by omega), hdigit _ (show n % 16 < 16 by omega)]
  simp only [Option.pure_def, Option.bind_eq_bind, Option.bind_some, Option.map_some,
    List.foldl_cons, List.foldl_nil, Option.some.injEq, Prod.mk.injEq, and_true]
  omega

/-- A unit that is no half of a pair stands for a character. -/
theorem readEscape?_unit (h : c.toNat < 0x10000) (r : Text) :
    readEscape? ('u' :: (Text.hexadecimal 4 c.toNat ++ r)) = some (c, r) := by
  have hc : c.toNat < 0xD800 ∨ 0xDFFF < c.toNat ∧ c.toNat < 0x110000 := c.valid
  rw [readEscape?, if_pos rfl, readUnit?_hexadecimal h, Option.bind_some]
  dsimp only
  rw [if_neg (by omega), if_neg (by omega), Char.ofNat_toNat]

/-- Two units that are a pair stand for a character. -/
theorem readEscape?_units {high low : Nat} (hhigh : high < 0x400) (hlow : low < 0x400)
    (h : c.toNat = 0x10000 + high * 0x400 + low) (r : Text) :
    readEscape? ('u' :: (Text.hexadecimal 4 (0xD800 + high) ++ (escapeUnit (0xDC00 + low) ++ r))) =
      some (c, r) := by
  have hafter : Text.after? ['\\', 'u'] (escapeUnit (0xDC00 + low) ++ r) =
      some (Text.hexadecimal 4 (0xDC00 + low) ++ r) := Text.after?_append ['\\', 'u'] _
  have hpair : ofPair? (0xD800 + high) (0xDC00 + low) = some c := by
    rw [ofPair?, if_pos (by omega), Nat.add_sub_cancel_left, Nat.add_sub_cancel_left, ← h,
      Char.ofNat_toNat]
  rw [readEscape?, if_pos rfl, readUnit?_hexadecimal (by omega), Option.bind_some]
  dsimp only
  rw [if_pos (by omega), hafter, Option.bind_some, readUnit?_hexadecimal (by omega),
    Option.bind_some]
  dsimp only
  rw [hpair, Option.map_some]

/-- **A character is read from its escape.** -/
theorem readChars?_escapeChar (n : Nat) (c : Char) (r : Text) :
    readChars? (n + 1) (escapeChar c ++ r) =
      (readChars? n r).map fun (t, r) => (c :: t, r) := by
  -- behind a backslash
  have hescape : ∀ {e : Text}, readEscape? e = some (c, r) →
      readChars? (n + 1) ('\\' :: e) = (readChars? n r).map fun (t, r) => (c :: t, r) := by
    intro e he
    rw [readChars?, if_neg (by decide), if_pos rfl, he, Option.bind_some]
  have h := escaped_escapeChar c
  generalize escapeChar c = t at h ⊢
  cases h with
  | @short d h =>
      have hd : d ≠ 'u' := by
        rintro rfl
        cases h
      refine hescape (e := d :: r) ?_
      rw [readEscape?, if_neg hd, h, Option.map_some]
  | plain h hquote hback =>
      rw [List.singleton_append, readChars?, if_neg hquote, if_neg hback, if_pos h.1,
        Option.bind_some]
  | unit h => exact hescape (readEscape?_unit h r)
  | units hhigh hlow h =>
      rw [List.append_assoc]
      exact hescape (readEscape?_units hhigh hlow h r)

theorem readChars?_flatMap (h : t.length < n) (r : Text) :
    readChars? n (t.flatMap escapeChar ++ '"' :: r) = some (t, r) := by
  induction t generalizing n with
  | nil =>
      obtain ⟨n, rfl⟩ := Nat.exists_eq_succ_of_ne_zero (Nat.ne_of_gt h)
      rfl
  | cons c t ih =>
      obtain ⟨n, rfl⟩ := Nat.exists_eq_succ_of_ne_zero (Nat.ne_of_gt (Nat.zero_lt_of_lt h))
      rw [List.flatMap_cons, List.append_assoc, Nat.succ_eq_add_one, readChars?_escapeChar,
        ih (Nat.lt_of_succ_lt_succ h), Option.map_some]

/-- Escapes do not make a text shorter. -/
theorem length_le_escapes (t : Text) : t.length ≤ (t.flatMap escapeChar).length := by
  induction t with
  | nil => exact Nat.le_refl _
  | cons c t ih =>
      have hpos : 0 < (escapeChar c).length := by
        have h := escaped_escapeChar c
        generalize escapeChar c = u at h ⊢
        cases h <;> exact Nat.succ_pos _
      rw [List.flatMap_cons, List.length_append, List.length_cons]
      omega

/-- **A quoted text is read back.** -/
theorem readString?_quote (t r : Text) :
    readString? (t.flatMap escapeChar ++ '"' :: r) = some (t, r) := by
  refine readChars?_flatMap ?_ r
  have hle := length_le_escapes t
  rw [List.length_append, List.length_cons]
  omega

/-! ### Numbers are read back -/

/-- What may stand behind a value. -/
def Ends (r : Text) : Prop := ∀ c ∈ r.head?, c = ',' ∨ c = ']' ∨ c = '\x7D'

theorem ends_nil : Ends [] := nofun

theorem ends_cons (h : c = ',' ∨ c = ']' ∨ c = '\x7D') : Ends (c :: r) := by
  rintro _ ⟨⟩
  exact h

/-- **Digits are read up to their end.** -/
theorem readDigits?_append (ht : t ≠ []) (hdigits : ∀ c ∈ t, Text.isAsciiDigit c = true)
    (hr : ∀ c ∈ r.head?, Text.isAsciiDigit c = false) : readDigits? (t ++ r) = some (t, r) := by
  obtain ⟨htake, hdrop⟩ := Text.span_append hdigits hr
  rw [readDigits?, htake, hdrop, if_neg ht]

theorem isAsciiDigit_of_mem_ofNat (h : c ∈ Text.ofNat n) : Text.isAsciiDigit c = true := by
  have hdigit : c.isDigit = true := Nat.isDigit_of_mem_toDigits (by decide) (by decide) h
  exact hdigit

theorem ofNat_ne_nil (n : Nat) : Text.ofNat n ≠ [] := Nat.toDigits_ne_nil

/-- **The number that digits write is that which they were made from.** -/
theorem ofAsciiDigits_ofNat (n : Nat) : Text.ofAsciiDigits (Text.ofNat n) = n := by
  have hread : Nat.ofDigitChars 10 (Nat.toDigits 10 n) 0 = n :=
    Nat.ofDigitChars_toDigits (by decide) (by decide)
  simp only [Nat.ofDigitChars_eq_foldl, Nat.mul_comm 10] at hread
  rw [Text.ofAsciiDigits, Text.ofDigits, List.foldl_map]
  exact hread

/-- A number other than zero does not begin with a zero. -/
theorem head?_ofNat (h : 0 < n) : (Text.ofNat n).head? ≠ some '0' := by
  induction n using Nat.strong_induction_on with
  | _ n ih =>
      unfold Text.ofNat at ih ⊢
      rcases Nat.lt_or_ge n 10 with hlt | hge
      · have hdigit : ∀ n < 10, 0 < n → n.digitChar ≠ '0' := by decide
        rw [Nat.toDigits_of_lt_base hlt]
        simpa using hdigit n hlt h
      · rw [Nat.toDigits_of_base_le (by decide) hge,
          List.head?_append_of_ne_nil _ Nat.toDigits_ne_nil]
        exact ih (n / 10) (by omega) (by omega)

/-- **The digits of a number are read as an integer.** -/
theorem readMagnitude?_ofNat (negative : Bool) (n : Nat) (hr : Ends r) :
    readMagnitude? negative (Text.ofNat n ++ r) =
      some (.int (if negative then -(n : Int) else n), r) := by
  have hrest : ∀ c ∈ r.head?, Text.isAsciiDigit c = false := by
    intro c hc
    rcases hr c hc with rfl | rfl | rfl <;> decide
  have hzero : ¬((Text.ofNat n).head? = some '0' ∧ Text.ofNat n ≠ ['0']) := by
    rintro ⟨hhead, hne⟩
    rcases Nat.eq_zero_or_pos n with rfl | hpos
    · exact hne rfl
    · exact head?_ofNat hpos hhead
  -- neither a point nor an exponent is what may stand behind a value
  have hfraction : readFraction? r = some ([], r) := by
    cases r with
    | nil => rfl
    | cons c r => rcases hr c rfl with rfl | rfl | rfl <;> rfl
  have hexponent : readExponent? r = some ([], r) := by
    cases r with
    | nil => rfl
    | cons c r => rcases hr c rfl with rfl | rfl | rfl <;> rfl
  rw [readMagnitude?, readDigits?_append (ofNat_ne_nil n) (fun _ => isAsciiDigit_of_mem_ofNat)
    hrest, Option.bind_some]
  dsimp only
  rw [if_neg hzero, hfraction, Option.bind_some]
  dsimp only
  rw [hexponent, Option.bind_some]
  dsimp only
  rw [if_pos ⟨rfl, rfl⟩, ofAsciiDigits_ofNat]

/-- **An integer is read back.** -/
theorem readNumber?_ofInt (i : Int) (hr : Ends r) :
    readNumber? (Text.ofInt i ++ r) = some (.int i, r) := by
  unfold Text.ofInt
  split
  · next hneg =>
      have hread := readMagnitude?_ofNat true i.natAbs hr
      rw [if_pos rfl, show -(i.natAbs : Int) = i by omega] at hread
      exact hread
  · next hpos =>
      have hread := readMagnitude?_ofNat false i.natAbs hr
      rw [if_neg Bool.false_ne_true, show (i.natAbs : Int) = i by omega] at hread
      -- a digit is no sign
      have hdigit := fun c => isAsciiDigit_of_mem_ofNat (c := c) (n := i.natAbs)
      have hne := ofNat_ne_nil i.natAbs
      generalize Text.ofNat i.natAbs = ds at hread hdigit hne ⊢
      cases ds with
      | nil => exact absurd rfl hne
      | cons d ds =>
          have hsign : d ≠ '-' := by
            rintro rfl
            exact absurd (hdigit _ List.mem_cons_self) (by decide)
          rw [List.cons_append, readNumber?]
          · exact hread
          · rintro r' heq
            exact hsign (List.cons.inj heq).1

end

/-! ### Sequences are read back -/

section

variable {α : Type} {close : Char} {item : Text → Option (α × Text)} {write : α → Text}
  {xs : List α} {c : Char} {n : Nat}

/-- What is no blank is not skipped. -/
theorem skipGaps_cons (h : isGap c = false) (r : Text) : skipGaps (c :: r) = c :: r :=
  List.dropWhile_cons_of_neg (Bool.not_eq_true _ ▸ h)

/-- There are no more items than characters and one. -/
theorem length_le_join (ts : List Text) : ts.length ≤ (Text.join [','] ts).length + 1 := by
  induction ts with
  | nil => exact Nat.zero_le _
  | cons t ts ih =>
      cases ts with
      | nil => exact Nat.succ_le_succ (Nat.zero_le _)
      | cons u ts =>
          rw [Text.join, List.length_append, List.length_append, List.length_cons,
            List.length_singleton]
          omega

/-- An item is no longer than all of them. -/
theorem length_le_join_of_mem {t : Text} {ts : List Text} (h : t ∈ ts) :
    t.length ≤ (Text.join [','] ts).length := by
  induction ts with
  | nil => cases h
  | cons u ts ih =>
      cases ts with
      | nil => rw [List.mem_singleton.1 h, Text.join]
      | cons v ts =>
          rw [Text.join, List.length_append, List.length_append]
          rcases List.mem_cons.1 h with rfl | h
          · omega
          · have := ih h
            omega

variable (hgap : isGap close = false) (hcomma : close ≠ ',')
  (hitem : ∀ x ∈ xs, ∀ c r, c = close ∨ c = ',' → item (write x ++ c :: r) = some (x, c :: r))

include hgap hcomma hitem

theorem readItems?_join (hne : xs ≠ []) (hn : xs.length ≤ n) (r : Text) :
    readItems? close item n (Text.join [','] (xs.map write) ++ close :: r) = some (xs, r) := by
  induction xs generalizing n with
  | nil => exact absurd rfl hne
  | cons x xs ih =>
      obtain ⟨hx, hxs⟩ := List.forall_mem_cons.1 hitem
      obtain ⟨n, rfl⟩ := Nat.exists_eq_succ_of_ne_zero (Nat.ne_zero_of_lt hn)
      cases xs with
      | nil =>
          rw [List.map_singleton, Text.join, Nat.succ_eq_add_one, readItems?,
            hx close r (.inl rfl), Option.bind_some]
          dsimp only
          rw [skipGaps_cons hgap]
          dsimp only
          rw [if_pos rfl]
      | cons y ys =>
          have hrest := ih hxs (List.cons_ne_nil y ys) (Nat.le_of_succ_le_succ hn)
          rw [List.map_cons] at hrest
          rw [List.map_cons, List.map_cons, Text.join, List.append_assoc, List.append_assoc,
            List.singleton_append, Nat.succ_eq_add_one, readItems?, hx ',' _ (.inr rfl),
            Option.bind_some]
          dsimp only
          rw [skipGaps_cons (by decide)]
          dsimp only
          rw [if_neg hcomma.symm, if_pos rfl, hrest, Option.map_some]

/-- **What stands in brackets is read back,** if no item begins like what closes them. -/
theorem readSequence?_join
    (hbegins : ∀ x ∈ xs, ∃ c t, write x = c :: t ∧ isGap c = false ∧ c ≠ close) (r : Text) :
    readSequence? close item (Text.join [','] (xs.map write) ++ close :: r) = some (xs, r) := by
  cases xs with
  | nil =>
      rw [List.map_nil, Text.join, List.nil_append, readSequence?, skipGaps_cons hgap]
      dsimp only
      rw [if_pos rfl]
  | cons x xs =>
      have hlength : (x :: xs).length ≤
          (Text.join [','] ((x :: xs).map write) ++ close :: r).length := by
        have hle := length_le_join ((x :: xs).map write)
        rw [List.length_map] at hle
        rw [List.length_append, List.length_cons (a := close)]
        omega
      have hread := readItems?_join hgap hcomma hitem (List.cons_ne_nil x xs) hlength r
      obtain ⟨c, t, hwrite, hc, hne⟩ := hbegins x List.mem_cons_self
      -- the first item begins the text
      obtain ⟨u, hu⟩ : ∃ u, Text.join [','] ((x :: xs).map write) = c :: u := by
        cases xs with
        | nil => exact ⟨t, hwrite⟩
        | cons y ys => exact ⟨_, by rw [List.map_cons, List.map_cons, Text.join, hwrite]; rfl⟩
      rw [hu] at hread ⊢
      rw [readSequence?, List.cons_append, skipGaps_cons hc]
      dsimp only
      rw [if_neg hne]
      exact hread

end

/-! ### Values are read back -/

/-- Values without doubles in them. -/
inductive FloatFree {τ : Type} : Json τ → Prop where
  | null : FloatFree .null
  | bool (b : Bool) : FloatFree (.bool b)
  | int (i : Int) : FloatFree (.int i)
  | text (t : τ) : FloatFree (.text t)
  | list {items : List (Json τ)} (h : ∀ j ∈ items, FloatFree j) : FloatFree (.list items)
  | map {es : Assoc τ (Json τ)} (h : ∀ e ∈ es, FloatFree e.2) : FloatFree (.map es)

variable {j : Json} {c : Char} {n : Nat} {r : Text}

/-- How values begin that have names or are numbers. -/
def IsBare (c : Char) : Prop := isGap c = false ∧ c ≠ '"' ∧ c ≠ '[' ∧ c ≠ ']' ∧ c ≠ '\x7B'

instance (c : Char) : Decidable (IsBare c) := inferInstanceAs (Decidable (_ ∧ _))

theorem readValue?_of_isBare (h : IsBare c) (r : Text) :
    readValue? (n + 1) (c :: r) = (readName? (c :: r)).or (readNumber? (c :: r)) := by
  obtain ⟨hgap, hquote, hlist, -, hmap⟩ := h
  rw [readValue?, skipGaps_cons hgap]
  dsimp only
  rw [if_neg hquote, if_neg hlist, if_neg hmap]

/-- An integer does not begin like a name. -/
theorem exists_ofInt_eq_cons (i : Int) :
    ∃ c t, Text.ofInt i = c :: t ∧ IsBare c ∧ c ∉ ['n', 't', 'f'] := by
  have hdigit : ∀ c, Text.isAsciiDigit c = true → IsBare c ∧ c ∉ ['n', 't', 'f'] := by
    intro c hc
    have hle : c ≤ '9' := of_decide_eq_true (Bool.and_eq_true_iff.1 hc).2
    exact Text.forall_ascii
      (P := fun c => Text.isAsciiDigit c = true → IsBare c ∧ c ∉ ['n', 't', 'f'])
      (by decide +kernel) c (lt_of_le_of_lt (UInt32.le_iff_toNat_le.1 hle) (by decide)) hc
  unfold Text.ofInt
  split
  · exact ⟨'-', _, rfl, by decide⟩
  · obtain ⟨c, t, heq⟩ := List.exists_cons_of_ne_nil (ofNat_ne_nil i.natAbs)
    exact ⟨c, t, heq, hdigit c (isAsciiDigit_of_mem_ofNat (heq ▸ List.mem_cons_self))⟩

/-- A value begins neither with a blank nor with what closes lists. -/
theorem FloatFree.begins (h : FloatFree j) :
    ∃ c t, j.write = c :: t ∧ isGap c = false ∧ c ≠ ']' := by
  cases h with
  | null => exact ⟨'n', _, rfl, by decide⟩
  | bool b => cases b <;> exact ⟨_, _, rfl, by decide⟩
  | int i =>
      obtain ⟨c, t, heq, hbare, -⟩ := exists_ofInt_eq_cons i
      exact ⟨c, t, heq, hbare.1, hbare.2.2.2.1⟩
  | text t => exact ⟨'"', _, rfl, by decide⟩
  | list h => exact ⟨'[', _, by rw [write]; rfl, by decide⟩
  | map h => exact ⟨'\x7B', _, by rw [write]; rfl, by decide⟩

/-- **An integer is read back as a value.** -/
theorem readValue?_int (i : Int) (hr : Ends r) :
    readValue? (n + 1) (Text.ofInt i ++ r) = some (.int i, r) := by
  have hread := readNumber?_ofInt i hr
  obtain ⟨c, t, heq, hbare, hname⟩ := exists_ofInt_eq_cons i
  rw [heq, List.cons_append] at hread ⊢
  have hnone : readName? (c :: (t ++ r)) = none := by
    simp only [List.mem_cons, List.not_mem_nil, or_false, not_or] at hname
    obtain ⟨hn, ht, hf⟩ := hname
    simp [readName?, names, Text.after?, Ne.symm hn, Ne.symm ht, Ne.symm hf]
  rw [readValue?_of_isBare hbare, hnone, Option.none_or, hread]

/-- An entry is read back if its value is. -/
theorem readPair?_quote {value : Text → Option (Json × Text)} {u : Text}
    (h : value u = some (j, r)) (k : Text) :
    readPair? value (quote k ++ ':' :: u) = some ((k, j), r) := by
  rw [quote, List.cons_append, List.cons_append, List.append_assoc, List.singleton_append,
    readPair?, skipGaps_cons (by decide)]
  simp only [readString?_quote, Option.bind_some]
  rw [skipGaps_cons (by decide)]
  simp only [h, Option.map_some]

/-- **What was written is read back,** in front of what may stand behind a value. -/
theorem readValue?_write (hfree : j.FloatFree) (hj : j.Proper) (hn : j.write.length ≤ n)
    (hr : Ends r) : readValue? n (j.write ++ r) = some (j, r) := by
  induction n generalizing j r with
  | zero =>
      obtain ⟨c, t, heq, -⟩ := hfree.begins
      rw [heq] at hn
      exact absurd hn (Nat.not_succ_le_zero _)
  | succ n ih =>
      cases hfree with
      | null => rfl
      | bool b => cases b <;> rfl
      | int i => exact readValue?_int i hr
      | text t =>
          change readValue? (n + 1) (quote t ++ r) = _
          rw [quote, List.cons_append, List.cons_append, List.append_assoc,
            List.singleton_append, readValue?, skipGaps_cons (by decide)]
          dsimp only
          rw [if_pos rfl, readString?_quote, Option.map_some]
      | @list items hfree =>
          cases hj with
          | list hj =>
              rw [write, writeItems_eq] at hn ⊢
              rw [List.length_append, List.length_cons, List.length_singleton] at hn
              have hitem : ∀ x ∈ items, ∀ c r, c = ']' ∨ c = ',' →
                  readValue? n (x.write ++ c :: r) = some (x, c :: r) := by
                intro x hx c r hc
                have hle := length_le_join_of_mem (List.mem_map_of_mem (f := write) hx)
                exact ih (hfree x hx) (hj x hx) (by omega) (ends_cons (hc.symm.imp_right .inl))
              have hread := readSequence?_join (by decide) (by decide) hitem
                (fun x hx => (hfree x hx).begins) r
              rw [List.cons_append, List.cons_append, List.append_assoc, List.singleton_append,
                readValue?, skipGaps_cons (by decide)]
              dsimp only
              rw [if_neg (by decide), if_pos rfl, hread, Option.map_some]
      | @map es hfree =>
          cases hj with
          | map hnodup hj =>
              rw [write, writeEntries_eq] at hn ⊢
              rw [List.length_append, List.length_cons, List.length_singleton] at hn
              have hitem : ∀ e ∈ es, ∀ c r, c = '\x7D' ∨ c = ',' →
                  readPair? (readValue? n) ((quote e.1 ++ ':' :: e.2.write) ++ c :: r) =
                    some (e, c :: r) := by
                intro e he c r hc
                have hle := length_le_join_of_mem
                  (List.mem_map_of_mem (f := fun e => quote e.1 ++ ':' :: e.2.write) he)
                rw [List.length_append, List.length_cons] at hle
                rw [List.append_assoc, List.cons_append]
                exact readPair?_quote (ih (hfree e he) (hj e he) (by omega)
                  (ends_cons (hc.symm.imp_right .inr))) e.1
              have hread := readSequence?_join (by decide) (by decide) hitem
                (fun e _ => ⟨'"', _, rfl, by decide⟩) r
              rw [List.cons_append, List.cons_append, List.append_assoc, List.singleton_append,
                readValue?, skipGaps_cons (by decide)]
              dsimp only
              rw [if_neg (by decide), if_neg (by decide), if_pos rfl, hread, Option.map_some]
              dsimp only
              rw [Assoc.ofEntries_of_nodup hnodup]

/-! ### Canonical texts are read back -/

theorem FloatFree.arranged (hj : j.FloatFree) : j.arranged.FloatFree := by
  induction j with
  | null | bool | int | float | text => exact hj
  | list items ih =>
      cases hj with
      | list hj =>
          rw [arranged_list]
          exact .list (List.forall_mem_map.2 fun x hx => ih x hx (hj x hx))
  | map es ih =>
      cases hj with
      | map hj =>
          rw [arranged_map]
          refine .map (List.forall_mem_map.2 fun e he => ?_)
          have hmem := (Assoc.perm_sorted es).mem_iff.1 he
          exact ih e hmem (hj e hmem)

/-- **The canonical text of a value denotes that value, arranged.** -/
theorem read?_canonical (hfree : j.FloatFree) (hj : j.Proper) :
    read? j.canonical = some j.arranged := by
  have hproper := (reordered_arranged hj).proper hj
  have hread := readValue?_write hfree.arranged hproper (Nat.le_refl _) ends_nil
  rw [List.append_nil] at hread
  rw [canonical_eq_write, read?, hread, Option.bind_some]
  exact if_pos rfl

example : read? " [ -1, \"\\u00e9\" ] ".toList = some (.list [.int (-1), .text ['é']]) := rfl

end Json

end InlineSecrets
