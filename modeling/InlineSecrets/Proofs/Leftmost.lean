/-
**The leftmost spans that do not overlap.**

What scanning finds is said here without scanning: of all places in a text at which a token stands,
take the first one, then the first one that does not begin in front of its end, and so on until
there is none.  When at most one token stands at each place, this determines the spans, and a place
that is left out lies inside one of those taken.

Main definitions:

* `InlineSecrets.Span.Leftmost` — **the leftmost spans of a kind that do not overlap;**
* `InlineSecrets.Recogniser.Finds` — the spans at which a recogniser finds a token in a text.

Main results:

* `InlineSecrets.Span.Leftmost.unique` — there is one such list of spans;
* `InlineSecrets.Span.Leftmost.mem_or_covered` — what is left out begins inside one of them;
* `InlineSecrets.Recogniser.leftmost_iff` — **scanning yields this list.**
-/

import InlineSecrets.Proofs.Pieces

set_option relaxedAutoImplicit false
set_option autoImplicit false

namespace InlineSecrets

namespace Span

variable {P Q : Span → Prop} {pos : Int} {s : Span} {ss ss' : List Span}

/-- **The leftmost spans that do not overlap,** of those for which `P` holds, from an offset on: the
first one that begins there or later, and behind it the leftmost ones from its end on. -/
inductive Leftmost (P : Span → Prop) : (pos : Int) → List Span → Prop where
  | nil {pos : Int} (hnone : ∀ s, P s → s.envelopeStart < pos) : Leftmost P pos []
  | cons {pos : Int} {s : Span} {ss : List Span} (hs : P s) (hpos : pos ≤ s.envelopeStart)
      (hfirst : ∀ s', P s' → pos ≤ s'.envelopeStart → s.envelopeStart ≤ s'.envelopeStart)
      (h : Leftmost P s.envelopeEnd ss) : Leftmost P pos (s :: ss)

/-- At most one span begins at each place. -/
def DeterminedByStart (P : Span → Prop) : Prop :=
  ∀ s s', P s → P s' → s.envelopeStart = s'.envelopeStart → s = s'

namespace Leftmost

/-- It depends only on which spans have the property. -/
theorem congr (h : Leftmost P pos ss) (hPQ : ∀ s, P s ↔ Q s) : Leftmost Q pos ss := by
  induction h with
  | nil hnone => exact .nil fun s hs => hnone s ((hPQ s).2 hs)
  | cons hs hpos hfirst _ ih =>
      exact .cons ((hPQ _).1 hs) hpos (fun s' hs' => hfirst s' ((hPQ s').2 hs')) ih

/-- All of them have the property. -/
theorem of_mem (h : Leftmost P pos ss) (hs : s ∈ ss) : P s := by
  induction h with
  | nil => cases hs
  | cons hs' _ _ _ ih =>
      rcases List.mem_cons.1 hs with rfl | hs
      · exact hs'
      · exact ih hs

/-- Places at which nothing begins can be passed over. -/
theorem of_le {pos' : Int} (h : Leftmost P pos' ss) (hle : pos ≤ pos')
    (hnone : ∀ s, P s → pos ≤ s.envelopeStart → pos' ≤ s.envelopeStart) : Leftmost P pos ss := by
  cases h with
  | nil hnone' =>
      refine .nil fun s hs => Int.lt_of_not_ge fun hge => ?_
      exact Int.not_lt.2 (hnone s hs hge) (hnone' s hs)
  | cons hs hpos hfirst h =>
      exact .cons hs (Int.le_trans hle hpos) (fun s' hs' hge => hfirst s' hs' (hnone s' hs' hge)) h

/-- **There is one such list.** -/
theorem unique (hP : DeterminedByStart P) (h : Leftmost P pos ss) (h' : Leftmost P pos ss') :
    ss = ss' := by
  induction h generalizing ss' with
  | nil hnone =>
      cases h' with
      | nil => rfl
      | cons hs hpos => exact absurd (hnone _ hs) (Int.not_lt.2 hpos)
  | cons hs hpos hfirst _ ih =>
      cases h' with
      | nil hnone => exact absurd (hnone _ hs) (Int.not_lt.2 hpos)
      | cons hs' hpos' hfirst' h' =>
          -- each of the two begins no later than the other
          have hstart := Int.le_antisymm (hfirst _ hs' hpos') (hfirst' _ hs hpos)
          obtain rfl := hP _ _ hs hs' hstart
          rw [ih h']

/-- **What is left out begins inside one of them.** -/
theorem mem_or_covered (hP : DeterminedByStart P) (h : Leftmost P pos ss) (hs : P s)
    (hpos : pos ≤ s.envelopeStart) :
    s ∈ ss ∨ ∃ s' ∈ ss, s'.envelopeStart < s.envelopeStart ∧ s.envelopeStart < s'.envelopeEnd := by
  induction h with
  | nil hnone => exact absurd (hnone s hs) (Int.not_lt.2 hpos)
  | @cons pos s₀ ss hs₀ _ hfirst _ ih =>
      rcases Int.lt_or_eq_of_le (hfirst s hs hpos) with hlt | heq
      · rcases Int.lt_or_le s.envelopeStart s₀.envelopeEnd with hin | hge
        · exact Or.inr ⟨s₀, List.mem_cons_self, hlt, hin⟩
        · rcases ih hge with hmem | ⟨s', hs', hcovers⟩
          · exact Or.inl (List.mem_cons_of_mem s₀ hmem)
          · exact Or.inr ⟨s', List.mem_cons_of_mem s₀ hs', hcovers⟩
      · obtain rfl := hP _ _ hs₀ hs heq
        exact Or.inl List.mem_cons_self

end Leftmost

theorem leftmost_congr (hPQ : ∀ s, P s ↔ Q s) : Leftmost P pos ss ↔ Leftmost Q pos ss :=
  ⟨fun h => h.congr hPQ, fun h => h.congr fun s => (hPQ s).symm⟩

end Span

/-! ### Scanning -/

namespace Recogniser

open Piece InlineSecrets.Span

variable {find : Recogniser} {t : Text} {s : Span}

/-- A recogniser finds a token of a text at a span. -/
def Finds (find : Recogniser) (t : Text) (s : Span) : Prop :=
  ∃ before k rest, t = before ++ (k.envelope ++ rest) ∧
    find before.getLast? (k.envelope ++ rest) = some k ∧ s = k.span before.length

/-- A recogniser finds at most one token at each place. -/
theorem determinedByStart_finds (find : Recogniser) (t : Text) :
    DeterminedByStart (find.Finds t) := by
  rintro s s' ⟨before, k, rest, ht, hk, rfl⟩ ⟨before', k', rest', ht', hk', rfl⟩ hstart
  have hlen : before.length = before'.length := Int.ofNat.inj hstart
  obtain ⟨rfl, hrest⟩ := List.append_inj (ht.symm.trans ht') hlen
  rw [hrest, hk'] at hk
  cases hk
  rfl

/-- Tokens that a text is cut into are the leftmost ones found in it, behind what is in front of
them. -/
theorem leftmost_spansFrom (hfind : find.Lawful) {pre : Text} {ps : List Piece}
    (ht : t = pre ++ text ps) (hps : Reads find pre.getLast? ps) :
    Leftmost (find.Finds t) pre.length (spansFrom pre.length ps) := by
  induction ps generalizing pre with
  | nil =>
      refine .nil ?_
      rintro s ⟨before, k, rest, ht', hk, rfl⟩
      -- a token takes up at least one character
      have hpos := List.length_pos_iff.2 (hfind.envelope_ne_nil hk)
      have hlen := congrArg List.length (ht.symm.trans ht')
      simp only [text, List.append_nil, List.length_append] at hlen
      simp only [Token.span]
      omega
  | cons p ps ih =>
      cases hps with
      | @plain _ c _ hnone hps =>
          have ht' : t = pre ++ [c] ++ text ps := by simpa [text] using ht
          have hrest := ih ht' (by simpa using hps)
          rw [List.length_append, List.length_singleton] at hrest
          refine hrest.of_le (by omega) ?_
          rintro s ⟨before, k, rest, htk, hk, rfl⟩ hle
          simp only [Token.span] at hle ⊢
          -- nothing is found at the character itself
          refine Int.ofNat_le.2 (Nat.lt_of_le_of_ne (Int.ofNat_le.1 hle) fun hlen => ?_)
          obtain ⟨rfl, hcons⟩ := List.append_inj (ht.symm.trans htk) hlen
          rw [← hcons, text, hnone] at hk
          cases hk
      | @token _ k _ hsome hps =>
          have ht' : t = pre ++ k.envelope ++ text ps := by simpa [text] using ht
          have hlast : (pre ++ k.envelope).getLast? = k.envelope.getLast? := by
            rw [List.getLast?_append,
              List.getLast?_eq_some_getLast (hfind.envelope_ne_nil hsome), Option.some_or]
          have hrest := ih ht' (by rw [hlast]; exact hps)
          rw [List.length_append] at hrest
          refine .cons ⟨pre, k, text ps, ht, hsome, rfl⟩ (Int.le_refl _) (fun _ _ hle => hle) ?_
          have hend : (k.span pre.length).envelopeEnd =
              ((pre.length + k.envelope.length : Nat) : Int) := by
            simp [Token.span, Nat.add_assoc]
          rw [hend]
          exact hrest

/-- **Scanning yields the leftmost tokens that do not overlap,** and they are determined by
that. -/
theorem leftmost_iff (hfind : find.Lawful) {ss : List Span} :
    Leftmost (find.Finds t) 0 ss ↔ ss = Token.scan find t := by
  obtain ⟨ps, rfl, hps⟩ := exists_reads hfind none t
  have ht : text ps = [] ++ text ps := rfl
  have hscan : Leftmost (find.Finds (text ps)) 0 (Token.scan find (text ps)) := by
    rw [scan_text hfind hps]
    exact leftmost_spansFrom hfind ht hps
  constructor
  · intro h
    exact h.unique (determinedByStart_finds find _) hscan
  · rintro rfl
    exact hscan

end Recogniser

end InlineSecrets
