/-
**Canonical texts are ASCII on one line, without blanks between their parts.**

The text of a value is put together from brackets, separators, names, numbers and strings.  Only
strings have blanks in them, and these are spaces: everything else that is no graphic character of
ASCII is written as an escape.

Main definitions:

* `InlineSecrets.Json.outside` — the characters of a JSON text that stand outside its strings;
* `InlineSecrets.Json.Compact` — texts in ASCII, without blanks outside of strings.

Main results:

* `InlineSecrets.Json.outsideFrom_escapeChar` — a string does not end before its end;
* `InlineSecrets.Json.compact_write`, `InlineSecrets.Json.canonical_ascii` — **the texts of values
  are like that.**
-/

import InlineSecrets.Proofs.Json.Reordering
import Mathlib.Data.Char

set_option relaxedAutoImplicit false
set_option autoImplicit false

namespace InlineSecrets

namespace Text

/-! ### Hexadecimal digits -/

/-- The last digit of several. -/
theorem hexadecimal_succ {w : Nat} (hw : 0 < w) (n : Nat) :
    hexadecimal (w + 1) n = hexadecimal w (n / 16) ++ [Nat.digitChar (n % 16)] := by
  unfold hexadecimal
  dsimp only
  rcases Nat.lt_or_ge n 16 with hlt | hge
  · have hzero : n / 16 = 0 := Nat.div_eq_of_lt hlt
    have hone : Nat.toDigits 16 0 = [Nat.digitChar 0] := Nat.toDigits_of_lt_base (by decide)
    rw [hzero, Nat.toDigits_of_lt_base hlt, hone, Nat.mod_eq_of_lt hlt]
    obtain ⟨w, rfl⟩ := Nat.exists_eq_succ_of_ne_zero hw.ne'
    rw [List.length_singleton, List.length_singleton, Nat.add_sub_cancel, Nat.succ_sub_one,
      List.replicate_succ']
    rfl
  · rw [Nat.toDigits_of_base_le (by decide) hge, List.length_append, List.length_singleton,
      Nat.add_sub_add_right, List.append_assoc]

/-- **A unit of 16 bits has four digits.** -/
theorem hexadecimal_four {n : Nat} (h : n < 0x10000) :
    hexadecimal 4 n = [Nat.digitChar (n / 0x1000), Nat.digitChar (n / 0x100 % 16),
      Nat.digitChar (n / 0x10 % 16), Nat.digitChar (n % 16)] := by
  have hone : ∀ n < 16, hexadecimal 1 n = [Nat.digitChar n] := by decide
  rw [hexadecimal_succ (by decide), hexadecimal_succ (by decide), hexadecimal_succ (by decide),
    hone _ (by omega)]
  simp only [Nat.div_div_eq_div_mul, List.cons_append, List.nil_append]

end Text

namespace Json

/-! ### Plain texts -/

/-- The graphic characters of ASCII but for quotes. -/
def isPlain (c : Char) : Bool := ' ' < c && c ≤ '~' && c != '"'

theorem isPlain_of_isDigit {c : Char} (h : c.isDigit = true) : isPlain c = true := by
  have hlt : c.toNat < 0x80 := by
    simp only [Char.isDigit, Bool.and_eq_true, decide_eq_true_eq] at h
    exact lt_of_le_of_lt (UInt32.le_iff_toNat_le.1 h.2) (by decide)
  exact Text.forall_ascii (P := fun c => c.isDigit = true → isPlain c = true)
    (by decide +kernel) c hlt h

/-- Texts of plain characters only. -/
def AllPlain (t : Text) : Prop := ∀ c ∈ t, isPlain c = true

instance (t : Text) : Decidable (AllPlain t) :=
  List.decidableBAll (fun c => isPlain c = true) t

variable {t u : Text}

theorem AllPlain.append (ht : AllPlain t) (hu : AllPlain u) : AllPlain (t ++ u) :=
  List.forall_mem_append.2 ⟨ht, hu⟩

theorem AllPlain.cons {c : Char} (hc : isPlain c = true) (ht : AllPlain t) : AllPlain (c :: t) :=
  List.forall_mem_cons.2 ⟨hc, ht⟩

theorem allPlain_replicate {c : Char} (hc : isPlain c = true) (n : Nat) :
    AllPlain (List.replicate n c) := by
  intro d hd
  rwa [List.eq_of_mem_replicate hd]

theorem allPlain_ofNat (n : Nat) : AllPlain (Text.ofNat n) := fun _ hc =>
  isPlain_of_isDigit (Nat.isDigit_of_mem_toDigits (by decide) (by decide) hc)

theorem allPlain_ofInt (i : Int) : AllPlain (Text.ofInt i) := by
  unfold Text.ofInt
  split
  · exact (allPlain_ofNat _).cons (by decide)
  · exact allPlain_ofNat _

theorem allPlain_setPoint (ht : AllPlain t) (e : Int) : AllPlain (Double.setPoint t e) := by
  unfold Double.setPoint
  split
  · exact (((allPlain_replicate (by decide) _).append ht).cons (by decide)).cons (by decide)
  · dsimp only
    split
    · exact (ht.append (allPlain_replicate (by decide) _)).append (by decide)
    · refine AllPlain.append (fun c hc => ht c (List.mem_of_mem_take hc)) ?_
      exact AllPlain.cons (by decide) fun c hc => ht c (List.mem_of_mem_drop hc)

theorem allPlain_setExponent (l : Double.Layout) (ht : AllPlain t) (e : Int) :
    AllPlain (l.setExponent t e) := by
  unfold Double.Layout.setExponent
  refine AllPlain.append ?_ (AllPlain.cons (by decide) (AllPlain.cons ?_ ?_))
  · split
    · exact ht
    · exact ht
    · next d r _ =>
        obtain ⟨hd, hr⟩ := List.forall_mem_cons.1 ht
        exact AllPlain.cons hd (AllPlain.cons (by decide) hr)
  · split <;> decide
  · exact (allPlain_replicate (by decide) _).append (allPlain_ofNat _)

/-- **The text of a double is plain.** -/
theorem allPlain_double (x : Double) : AllPlain (Double.Layout.json.write x) := by
  unfold Double.Layout.write
  split
  · decide
  · split <;> decide
  · dsimp only
    split
    · refine AllPlain.cons (by decide) ?_
      split
      · exact allPlain_setPoint (allPlain_ofNat _) _
      · exact allPlain_setExponent _ (allPlain_ofNat _) _
    · split
      · exact allPlain_setPoint (allPlain_ofNat _) _
      · exact allPlain_setExponent _ (allPlain_ofNat _) _

/-! ### Strings -/

/-- Where a character of a JSON text stands: outside of strings, in a string, or in a string and
behind a backslash. -/
inductive Place where
  | outside
  | inside
  | escaped
  deriving DecidableEq, Repr

/-- The characters that stand outside of strings, and the quotes around these, in a text whose first
character stands at a place. -/
def outsideFrom : Place → Text → Text
  | _, [] => []
  | .outside, c :: r => c :: outsideFrom (if c = '"' then .inside else .outside) r
  | .inside, c :: r =>
      if c = '"' then c :: outsideFrom .outside r
      else outsideFrom (if c = '\\' then .escaped else .inside) r
  | .escaped, _ :: r => outsideFrom .inside r

/-- **The characters of a JSON text that stand outside its strings.** -/
def outside (t : Text) : Text := outsideFrom .outside t

/-- Plain characters stand where they stand. -/
theorem outsideFrom_plain (ht : AllPlain t) (r : Text) :
    outsideFrom .outside (t ++ r) = t ++ outsideFrom .outside r := by
  induction t with
  | nil => rfl
  | cons c t ih =>
      obtain ⟨hc, ht⟩ := List.forall_mem_cons.1 ht
      have hquote : c ≠ '"' := by
        rintro rfl
        exact absurd hc (by decide)
      rw [List.cons_append, outsideFrom, if_neg hquote, ih ht, List.cons_append]

/-- In a string, characters without a meaning there are passed over. -/
theorem outsideFrom_inside (ht : ∀ c ∈ t, c ≠ '"' ∧ c ≠ '\\') (r : Text) :
    outsideFrom .inside (t ++ r) = outsideFrom .inside r := by
  induction t with
  | nil => rfl
  | cons c t ih =>
      obtain ⟨⟨hquote, hback⟩, ht⟩ := List.forall_mem_cons.1 ht
      rw [List.cons_append, outsideFrom, if_neg hquote, if_neg hback, ih ht]

/-- The characters that are written as a backslash and a letter or sign, by that. -/
def shortEscapes : Assoc Char Char :=
  [('"', '"'), ('\\', '\\'), ('/', '/'), ('b', '\x08'), ('f', '\x0C'), ('n', '\n'), ('r', '\r'),
    ('t', '\t')]

/-- **How a character is written in a string.** -/
inductive Escaped (c : Char) : Text → Prop where
  | short {d : Char} (h : Assoc.get? shortEscapes d = some c) : Escaped c ['\\', d]
  | plain (h : ' ' ≤ c ∧ c ≤ '~') (hquote : c ≠ '"') (hback : c ≠ '\\') : Escaped c [c]
  | unit (h : c.toNat < 0x10000) : Escaped c (escapeUnit c.toNat)
  | units {high low : Nat} (hhigh : high < 0x400) (hlow : low < 0x400)
      (h : c.toNat = 0x10000 + high * 0x400 + low) :
      Escaped c (escapeUnit (0xD800 + high) ++ escapeUnit (0xDC00 + low))

theorem escaped_escapeChar (c : Char) : Escaped c (escapeChar c) := by
  unfold escapeChar
  split
  · next h => rcases h with rfl | rfl <;> exact .short (by decide)
  · next hself =>
      obtain ⟨hquote, hback⟩ := not_or.1 hself
      split
      · next h => subst h; exact .short (by decide)
      split
      · next h => subst h; exact .short (by decide)
      split
      · next h => subst h; exact .short (by decide)
      split
      · next h => subst h; exact .short (by decide)
      split
      · next h => subst h; exact .short (by decide)
      split
      · next h => exact .plain h hquote hback
      split
      · next h => exact .unit h
      · next h =>
          have hc : c.toNat < 0xD800 ∨ 0xDFFF < c.toNat ∧ c.toNat < 0x110000 := c.valid
          exact .units (by omega) (by omega) (by omega)

/-- The digits of a unit. -/
theorem plain_of_mem_hexadecimal {n : Nat} (hn : n < 0x10000) {c : Char}
    (h : c ∈ Text.hexadecimal 4 n) : isPlain c = true ∧ c ≠ '\\' := by
  have hdigit : ∀ k < 16, isPlain k.digitChar = true ∧ k.digitChar ≠ '\\' := by decide
  rw [Text.hexadecimal_four hn] at h
  simp only [List.mem_cons, List.not_mem_nil, or_false] at h
  rcases h with rfl | rfl | rfl | rfl <;> exact hdigit _ (by omega)

theorem outsideFrom_escapeUnit {n : Nat} (hn : n < 0x10000) (r : Text) :
    outsideFrom .inside (escapeUnit n ++ r) = outsideFrom .inside r := by
  -- behind the backslash and the letter
  have hdigits : ∀ c ∈ Text.hexadecimal 4 n, c ≠ '"' ∧ c ≠ '\\' := by
    intro c hc
    obtain ⟨hplain, hback⟩ := plain_of_mem_hexadecimal hn hc
    refine ⟨?_, hback⟩
    rintro rfl
    exact absurd hplain (by decide)
  exact outsideFrom_inside hdigits r

/-- **The escape of a character does not end a string.** -/
theorem outsideFrom_escapeChar (c : Char) (r : Text) :
    outsideFrom .inside (escapeChar c ++ r) = outsideFrom .inside r := by
  have h := escaped_escapeChar c
  generalize escapeChar c = t at h ⊢
  cases h with
  | short => rfl
  | plain _ hquote hback => exact outsideFrom_inside (by simp [hquote, hback]) r
  | unit h => exact outsideFrom_escapeUnit h r
  | units hhigh hlow =>
      rw [List.append_assoc, outsideFrom_escapeUnit (by omega), outsideFrom_escapeUnit (by omega)]

/-- The graphic characters of ASCII, and the space. -/
def IsAscii (c : Char) : Prop := ' ' ≤ c ∧ c.toNat < 0x80

instance (c : Char) : Decidable (IsAscii c) := inferInstanceAs (Decidable (_ ∧ _))

theorem isAscii_of_isPlain {c : Char} (h : isPlain c = true) : IsAscii c := by
  simp only [isPlain, Bool.and_eq_true, decide_eq_true_eq] at h
  exact ⟨h.1.1.le, lt_of_le_of_lt (UInt32.le_iff_toNat_le.1 h.1.2) (by decide)⟩

theorem isAscii_of_mem_escapeUnit {n : Nat} (hn : n < 0x10000) {d : Char}
    (h : d ∈ escapeUnit n) : IsAscii d := by
  rcases List.mem_cons.1 h with rfl | h
  · decide
  rcases List.mem_cons.1 h with rfl | h
  · decide
  · exact isAscii_of_isPlain (plain_of_mem_hexadecimal hn h).1

/-- **The escape of a character is in ASCII.** -/
theorem isAscii_of_mem_escapeChar {c d : Char} (hd : d ∈ escapeChar c) : IsAscii d := by
  have h := escaped_escapeChar c
  generalize escapeChar c = t at h hd
  cases h with
  | @short e h =>
      have hmem : (e, c) ∈ shortEscapes := Assoc.mem_of_get? h
      have hascii : ∀ p ∈ shortEscapes, IsAscii p.1 := by decide
      rcases List.mem_cons.1 hd with rfl | hd
      · decide
      · exact List.mem_singleton.1 hd ▸ hascii _ hmem
  | plain h =>
      obtain rfl := List.mem_singleton.1 hd
      exact ⟨h.1, lt_of_le_of_lt (UInt32.le_iff_toNat_le.1 h.2) (by decide)⟩
  | unit h => exact isAscii_of_mem_escapeUnit h hd
  | units hhigh hlow =>
      rcases List.mem_append.1 hd with hd | hd
      · exact isAscii_of_mem_escapeUnit (by omega) hd
      · exact isAscii_of_mem_escapeUnit (by omega) hd

/-! ### Compact texts -/

/-- **Texts in ASCII, without blanks outside of strings,** which begin and end outside of
strings. -/
structure Compact (t : Text) : Prop where
  ascii : ∀ c ∈ t, IsAscii c
  blankless : ∃ s : Text, (∀ c ∈ s, Text.isBlank c = false) ∧
    ∀ r, outsideFrom .outside (t ++ r) = s ++ outsideFrom .outside r

theorem compact_nil : Compact [] := ⟨nofun, [], nofun, fun _ => rfl⟩

theorem Compact.append (ht : Compact t) (hu : Compact u) : Compact (t ++ u) := by
  obtain ⟨s, hs, houtside⟩ := ht.blankless
  obtain ⟨s', hs', houtside'⟩ := hu.blankless
  refine ⟨List.forall_mem_append.2 ⟨ht.ascii, hu.ascii⟩, s ++ s',
    List.forall_mem_append.2 ⟨hs, hs'⟩, fun r => ?_⟩
  rw [List.append_assoc, houtside, houtside', List.append_assoc]

theorem compact_of_allPlain (ht : AllPlain t) : Compact t := by
  have hblank : ∀ c : Char, isPlain c = true → Text.isBlank c = false := fun c hc =>
    Text.forall_ascii (P := fun c => isPlain c = true → Text.isBlank c = false)
      (by decide +kernel) c (isAscii_of_isPlain hc).2 hc
  exact ⟨fun c hc => isAscii_of_isPlain (ht c hc), t, fun c hc => hblank c (ht c hc),
    outsideFrom_plain ht⟩

theorem Compact.join {ts : List Text} (hts : ∀ t ∈ ts, Compact t) :
    Compact (Text.join [','] ts) := by
  induction ts with
  | nil => exact compact_nil
  | cons t ts ih =>
      obtain ⟨ht, hts⟩ := List.forall_mem_cons.1 hts
      cases ts with
      | nil => exact ht
      | cons u r => exact (ht.append (compact_of_allPlain (by decide))).append (ih hts)

/-- What stands in brackets is compact if its parts are. -/
theorem Compact.enclosed {a b : Char} (ha : isPlain a = true) (hb : isPlain b = true)
    {ts : List Text} (hts : ∀ t ∈ ts, Compact t) : Compact (a :: Text.join [','] ts ++ [b]) := by
  have hopen : Compact [a] := compact_of_allPlain (List.forall_mem_singleton.2 ha)
  have hclose : Compact [b] := compact_of_allPlain (List.forall_mem_singleton.2 hb)
  exact (hopen.append (Compact.join hts)).append hclose

/-- **A string is compact.** -/
theorem compact_quote (t : Text) : Compact (quote t) := by
  have hinside : ∀ r : Text, outsideFrom .inside (t.flatMap escapeChar ++ r) =
      outsideFrom .inside r := by
    intro r
    induction t with
    | nil => rfl
    | cons c t ih =>
        rw [List.flatMap_cons, List.append_assoc, outsideFrom_escapeChar, ih]
  refine ⟨fun c hc => ?_, ['"', '"'], ?_, fun r => ?_⟩
  · rw [quote, List.cons_append] at hc
    rcases List.mem_cons.1 hc with rfl | hc
    · decide
    rcases List.mem_append.1 hc with hc | hc
    · obtain ⟨d, -, hc⟩ := List.mem_flatMap.1 hc
      exact isAscii_of_mem_escapeChar hc
    · exact List.mem_singleton.1 hc ▸ by decide
  · exact List.forall_mem_cons.2 ⟨by decide, List.forall_mem_singleton.2 (by decide)⟩
  · rw [quote, List.cons_append, List.cons_append, List.append_assoc, outsideFrom, if_pos rfl,
      hinside]
    rfl

/-- **The text of a value is compact.** -/
theorem compact_write (j : Json) : Compact j.write := by
  induction j with
  | null => exact compact_of_allPlain (by decide)
  | bool b => cases b <;> exact compact_of_allPlain (by decide)
  | int i => exact compact_of_allPlain (allPlain_ofInt i)
  | float x => exact compact_of_allPlain (allPlain_double x)
  | text t => exact compact_quote t
  | list items ih =>
      rw [write, writeItems_eq]
      exact Compact.enclosed (by decide) (by decide) (List.forall_mem_map.2 ih)
  | map es ih =>
      rw [write, writeEntries_eq]
      refine Compact.enclosed (by decide) (by decide) (List.forall_mem_map.2 fun e he => ?_)
      exact (compact_quote e.1).append
        (Compact.append (compact_of_allPlain (t := [':']) (by decide)) (ih e he))

/-- **The canonical text of a value is in ASCII,** and there are no blanks outside its strings. -/
theorem canonical_ascii (j : Json) :
    (∀ c ∈ j.canonical, IsAscii c) ∧ ∀ c ∈ outside j.canonical, Text.isBlank c = false := by
  rw [canonical_eq_write]
  obtain ⟨hascii, s, hs, houtside⟩ := compact_write j.arranged
  have hall := houtside []
  rw [List.append_nil, outsideFrom, List.append_nil] at hall
  rw [outside, hall]
  exact ⟨hascii, hs⟩

example : outside (canonical (.list [.text "a \" b".toList, .null])) = "[\"\",null]".toList := rfl

end Json

end InlineSecrets
