/-
**What stands in front of a text stays in front of it.**

Where no token begins in some characters, and what comes behind them is read as if nothing stood in
front of it, the tokens of the text are those of what comes behind, further on.  Then an engine does
the same to both: it leaves these characters as they are, makes the same calls in the same states,
and fails for the same token, which it finds further on.

The names of variables are such characters, with the sign between a name and a value: the markers
of tokens hold a colon, which a name does not, and they do not hold that sign, which is no word
character either.  So the way back treats the entry of a variable as it treats the value.

Main definitions:

* `InlineSecrets.Recogniser.Skips` — characters in which no token begins, whatever follows;
* `InlineSecrets.Engine.Failure.shift` — a failure for a token that stands further on;
* `InlineSecrets.Engine.behind` — the outcome for a text, with characters in front of it.

Main results:

* `InlineSecrets.Shape.skips_entry` — **no token begins in the name of a variable;**
* `InlineSecrets.Splicing.spliceEach_shift` — splicing behind some characters;
* `InlineSecrets.Engine.run_append` — the effect of an engine behind some characters;
* `InlineSecrets.Tool.run_entry` — **an entry is treated as its value is.**
-/

import InlineSecrets.Proofs.Failing
import InlineSecrets.Proofs.Lines
import InlineSecrets.Proofs.References

set_option relaxedAutoImplicit false
set_option autoImplicit false

namespace InlineSecrets

/-! ### Offsets further on -/

namespace Text

theorem place_add (n m : Nat) {i : Int} (hi : 0 ≤ i) :
    place (n + m) (i + n) = n + place m i := by
  unfold place
  split <;> split <;> omega

/-- Slices behind some characters. -/
theorem slice_append_left (u t : Text) {i j : Int} (hi : 0 ≤ i) (hj : 0 ≤ j) :
    slice (u ++ t) (i + u.length) (j + u.length) = t.slice i j := by
  rw [slice, List.length_append, place_add _ _ hi, place_add _ _ hj, List.take_length_add_append,
    List.drop_length_add_append]
  rfl

theorem splice_append_left (u t r : Text) {i j : Int} (hi : 0 ≤ i) (hj : 0 ≤ j) :
    splice (u ++ t) (i + u.length) (j + u.length) r = u ++ t.splice i j r := by
  rw [splice, List.length_append, place_add _ _ hi, place_add _ _ hj, List.take_length_add_append,
    List.drop_length_add_append, splice]
  simp only [List.append_assoc]

end Text

namespace Span

variable {k : Span} {t₀ : Text}

theorem Fits.nonneg (hk : k.Fits t₀) :
    0 ≤ k.payloadStart ∧ 0 ≤ k.payloadEnd ∧ 0 ≤ k.envelopeEnd := by
  obtain ⟨h₀, h₁, h₂, h₃, -⟩ := hk
  omega

theorem Fits.payload_shift (hk : k.Fits t₀) (u t : Text) :
    (k.shift u.length).payload (u ++ t) = k.payload t :=
  Text.slice_append_left u t hk.nonneg.1 hk.nonneg.2.1

theorem Fits.envelope_shift (hk : k.Fits t₀) (u t : Text) :
    (k.shift u.length).envelope (u ++ t) = k.envelope t :=
  Text.slice_append_left u t hk.start_nonneg hk.nonneg.2.2

theorem Fits.replace_shift (hk : k.Fits t₀) (u t r : Text) :
    (k.shift u.length).replace (u ++ t) r = u ++ k.replace t r :=
  Text.splice_append_left u t r hk.start_nonneg hk.nonneg.2.2

end Span

/-! ### Splicing further on -/

namespace Splicing

variable {σ ε : Type} {f : Transform σ ε} {place : Placing}

/-- A token that failed, `n` places further on. -/
def Failure.shift (x : Failure ε) (n : Nat) : Failure ε := { x with offset := x.offset + n }

/-- **Splicing behind some characters** leaves these as they are, and makes the same calls. -/
theorem spliceEach_shift {ks : List Span} {t₀ : Text} (hks : ∀ k ∈ ks, k.Fits t₀) (u t : Text)
    (s : σ) :
    spliceEach f place (ks.map (Span.shift · u.length)) (u ++ t) s =
      match spliceEach f place ks t s with
      | (.ok t, s) => (.ok (u ++ t), s)
      | (.error x, s) => (.error (x.shift u.length), s) := by
  induction ks generalizing t s with
  | nil => rfl
  | cons k ks ih =>
      obtain ⟨hk, hks⟩ := List.forall_mem_cons.1 hks
      rw [List.map_cons, spliceEach, spliceEach, hk.payload_shift]
      rcases f (k.payload t) s with ⟨c | r, s₁⟩
      · rfl
      · dsimp only
        rw [hk.envelope_shift, hk.replace_shift, ih hks]

end Splicing

/-! ### Characters in which no token begins -/

/-- No token begins in some characters, whatever follows, and what follows is recognised as if
nothing stood in front of it. -/
structure Recogniser.Skips (find : Recogniser) (u : Text) : Prop where
  none_of_lt : ∀ before, ∀ n < u.length, ∀ t, find before (u.drop n ++ t) = none
  behind : ∀ t, find u.getLast? t = find none t

open Piece

/-- The tokens behind such characters are those of the text behind them. -/
theorem Shape.spans_append {s : Shape} {u : Text} (hskips : s.token?.Skips u) (t : Text) :
    s.spans (u ++ t) = (s.spans t).map (Span.shift · u.length) := by
  obtain ⟨ps, rfl, hps⟩ := exists_reads s.lawful none t
  have hbehind : Reads s.token? (u.getLast?.or none) ps := by
    rw [Option.or_none]
    exact hps.congr_before hskips.behind
  have hboth := reads_map_plain_append (fun before n hn => hskips.none_of_lt before n hn _) hbehind
  have htext : text (u.map .plain ++ ps) = u ++ text ps := by rw [text_append, text_map_plain]
  rw [spans_text hps, map_shift_spansFrom, ← htext, spans_text hboth, spansFrom_map_plain_append]

namespace Text

variable {name o : Text}

/-- What holds a colon and no equality sign does not begin in the name of a variable. -/
theorem not_prefix_drop_entry (hname : ':' ∉ name) (hcolon : ':' ∈ o) (hsep : '=' ∉ o) {n : Nat}
    (hn : n < (name ++ ['=']).length) (t : Text) : ¬o <+: (name ++ ['=']).drop n ++ t := by
  intro h
  have hle : n ≤ name.length := by
    rw [List.length_append, List.length_singleton] at hn
    omega
  rw [List.drop_append_of_le_length hle, List.append_assoc, List.singleton_append] at h
  have hbegins : o <+: name.drop n := prefix_of_prefix_append_cons hsep h
  exact hname (List.mem_of_mem_drop (hbegins.subset hcolon))

end Text

variable {name : Text}

theorem Enclosure.skips_entry {e : Enclosure} (hcolon : ':' ∈ e.opener) (hsep : '=' ∉ e.opener)
    (hbarred : e.barred ≠ some '=') (hname : ':' ∉ name) : e.token?.Skips (name ++ ['=']) where
  none_of_lt before n hn t :=
    token?_of_not_opened (Text.not_prefix_drop_entry hname hcolon hsep hn t) before
  behind t := by
    have hbar : (some '=' == e.barred) = false := by simpa using hbarred.symm
    simp [token?, hbar]

theorem Reference.skips_entry {e : Reference} (hcolon : ':' ∈ e.marker) (hsep : '=' ∉ e.marker)
    (hname : ':' ∉ name) : e.token?.Skips (name ++ ['=']) where
  none_of_lt before n hn t :=
    token?_of_not_marked (Text.not_prefix_drop_entry hname hcolon hsep hn t) before
  behind t := by
    have hword : (some '=').any Text.isWord = false := by decide
    rw [List.getLast?_concat, token?, token?, hword]
    rfl

/-- **No token begins in the name of a variable,** nor is one barred by what is behind it. -/
theorem Shape.skips_entry (s : Shape) (hname : ':' ∉ name) : s.token?.Skips (name ++ ['=']) := by
  cases s with
  | plain => exact Enclosure.skips_entry (by decide) (by decide) (by decide) hname
  | encrypted => exact Enclosure.skips_entry (by decide) (by decide) (by decide) hname
  | lookup => exact Reference.skips_entry (by decide) (by decide) hname
  | declaration => exact Reference.skips_entry (by decide) (by decide) hname

/-! ### Engines -/

namespace Engine

variable {σ ε : Type}

/-- A failure for a token that stands `n` places further on. -/
def Failure.shift (n : Nat) : Failure ε → Failure ε
  | .transforming action family payload offset cause =>
      .transforming action family payload (offset + n) cause
  | .locating family cause => .locating family cause
  | .unwrapped action family => .unwrapped action family

/-- What becomes of a text, with some characters in front of it. -/
def behind (u : Text) : Except (Failure ε) Text × σ → Except (Failure ε) Text × σ
  | (.ok t, s) => (.ok (u ++ t), s)
  | (.error f, s) => (.error (f.shift u.length), s)

/-- **An engine treats what follows such characters as it treats it alone.** -/
theorem run_append {e : Engine σ ε} {wrapTokens : Bool} {place : Splicing.Placing} {s : Shape}
    (hlocate : ∀ t, e.locate t = .ok (s.spans t)) (hplace : e.placing? wrapTokens = some place)
    {u : Text} (hskips : s.token?.Skips u) (t : Text) (w : σ) :
    e.run wrapTokens (u ++ t) w = behind u (e.run wrapTokens t w) := by
  have hfits : ∀ k ∈ (s.spans t).reverse, k.Fits t := fun k hk =>
    (s.fits_spans t).1 k (List.mem_reverse.1 hk)
  rw [run_of_placing? hplace, run_of_placing? hplace, hlocate, hlocate, Shape.spans_append hskips]
  dsimp only
  rw [splice, splice, Splicing.spliceBack, Splicing.spliceBack, ← List.map_reverse,
    Splicing.spliceEach_shift hfits]
  rcases Splicing.spliceEach e.transform place (s.spans t).reverse t w with ⟨f | t', w'⟩ <;> rfl

end Engine

/-! ### Tools -/

namespace Tool

/-- Engines that treat what follows some characters as they treat it alone do so one after the
other. -/
theorem runEngines_behind {wrapTokens : Bool} {es : List (Engine World Cause)} {u : Text}
    (hes : ∀ e ∈ es, ∀ t w, e.run wrapTokens (u ++ t) w =
      Engine.behind u (e.run wrapTokens t w)) (t : Text) (w : World) :
    runEngines wrapTokens es (u ++ t) w = Engine.behind u (runEngines wrapTokens es t w) := by
  induction es generalizing t w with
  | nil => rfl
  | cons e es ih =>
      obtain ⟨he, hes⟩ := List.forall_mem_cons.1 hes
      rw [runEngines, runEngines, he]
      rcases e.run wrapTokens t w with ⟨f | t', w'⟩
      · rfl
      · exact ih hes t' w'

/-- **An entry is treated as its value is,** with the name in front, and with the same calls. -/
theorem run_entry (tool : Tool) (a : Action) (wrapTokens : Bool) {name : Text} (hname : ':' ∉ name)
    (v : Text) (w : World) :
    tool.run a wrapTokens (name ++ '=' :: v) w =
      Engine.behind (name ++ ['=']) (tool.run a wrapTokens v w) := by
  rw [List.append_cons]
  refine runEngines_behind (fun e he t w => ?_) v w
  obtain ⟨family, -, he⟩ := List.mem_filterMap.1 he
  obtain ⟨place, hplace⟩ := family.exists_placing? he wrapTokens
  obtain ⟨shape, transform, wrapper, rfl⟩ := Family.exists_engineFor he
  exact Engine.run_append (fun _ => rfl) hplace (shape.skips_entry hname) t w

end Tool

end InlineSecrets
