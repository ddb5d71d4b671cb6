/-
**Searching a text for the matches of a pattern.**

A search tries a pattern at a place.  If the pattern matches there, the first of its ways is a
match, and the search goes on where that ends; if not, it goes on behind the next character, up to
the end of the text.  Behind an empty match it would find that match again and again; so the next
one at the same place must not be empty.

This is said here as a relation, with a rule for each step of the search.  A search that comes to an
end is a finite number of these steps.  Every search does, and it finds the spans that going through
the text once finds.  What it finds are matches, each behind the one before.

Main definitions:

* `InlineSecrets.Pattern.Way.span` — the span of a way;
* `InlineSecrets.Pattern.Node.Searches` — **a search, and the spans that it finds;**
* `InlineSecrets.Pattern.Node.IsMatch` — the matches of a pattern in a text.

Main results:

* `InlineSecrets.Pattern.Node.searches_iff` — **a search through a text comes to an end, with the
  spans of the pattern;**
* `InlineSecrets.Pattern.Node.Searches.isMatch` — what it finds are matches;
* `InlineSecrets.Pattern.Node.IsMatch.payload` — where the payload of a match lies;
* `InlineSecrets.Pattern.Node.Searches.pairwise` — each match stands behind the one before.
-/

import InlineSecrets.Proofs.Ways

set_option relaxedAutoImplicit false
set_option autoImplicit false

namespace InlineSecrets

namespace Pattern

/-! ### Places and spans -/

/-- The place between two parts of a text. -/
def Cursor.between (before after : Text) : Cursor := ⟨before.length, before.getLast?, after, none⟩

/-- The same place, with nothing noted. -/
def Cursor.cleared (c : Cursor) : Cursor := { c with noted := none }

/-- The span of a way from an offset on: the payload is the last stretch of the group, and has no
place when the group took no part. -/
def Way.span (start : Nat) (w : Way) : Span :=
  match w.stretches.getLast? with
  | none => ⟨start, -1, -1, w.stop.pos⟩
  | some (i, j) => ⟨start, i, j, w.stop.pos⟩

/-- Whether a way from a place on counts as a match: where the search has to advance, an empty one
does not. -/
def Way.counts (advancing : Bool) (c : Cursor) (w : Way) : Bool :=
  !(advancing && w.stop.pos == c.pos)

/-! ### The search -/

/-- **A search from a place on,** and the spans of the matches that it finds.  The first way that
counts is a match, and the search goes on where it ends; if it is empty, the next match there must
not be.  Where there is no match, the search goes on behind the next character, up to the end. -/
inductive Node.Searches (root : Node) : Cursor → (advancing : Bool) → List Span → Prop where
  | found {c : Cursor} {advancing : Bool} {ws : List Way} {w : Way} {ss : List Span}
      (hways : root.Ways c ws) (hfirst : ws.find? (Way.counts advancing c) = some w)
      (h : root.Searches w.stop.cleared (w.stop.pos == c.pos) ss) :
      root.Searches c advancing (w.span c.pos :: ss)
  | next {c : Cursor} {advancing : Bool} {ws : List Way} {x : Char} {r : Text} {ss : List Span}
      (hways : root.Ways c ws) (hnone : ws.find? (Way.counts advancing c) = none)
      (hrest : c.rest = x :: r) (h : root.Searches (c.past [x] r) false ss) :
      root.Searches c advancing ss
  | done {c : Cursor} {advancing : Bool} {ws : List Way} (hways : root.Ways c ws)
      (hnone : ws.find? (Way.counts advancing c) = none) (hrest : c.rest = []) :
      root.Searches c advancing []

variable {root : Node} {c : Cursor} {advancing : Bool} {w : Way} {ws : List Way}
  {ss ss' : List Span}

/-- **A search finds one list of spans.** -/
theorem Node.Searches.unique (h : root.Searches c advancing ss)
    (h' : root.Searches c advancing ss') : ss = ss' := by
  induction h generalizing ss' with
  | found hways hfirst _ ih =>
      cases h' with
      | found hways' hfirst' h' =>
          obtain rfl := hways.unique hways'
          rw [hfirst] at hfirst'
          cases hfirst'
          rw [ih h']
      | next hways' hnone' =>
          obtain rfl := hways.unique hways'
          simp [hfirst] at hnone'
      | done hways' hnone' =>
          obtain rfl := hways.unique hways'
          simp [hfirst] at hnone'
  | next hways hnone hrest _ ih =>
      cases h' with
      | found hways' hfirst' =>
          obtain rfl := hways.unique hways'
          simp [hnone] at hfirst'
      | next _ _ hrest' h' =>
          rw [hrest] at hrest'
          cases hrest'
          exact ih h'
      | done _ _ hrest' => simp [hrest] at hrest'
  | done hways hnone hrest =>
      cases h' with
      | found hways' hfirst' =>
          obtain rfl := hways.unique hways'
          simp [hnone] at hfirst'
      | next _ _ hrest' => simp [hrest] at hrest'
      | done => rfl

/-! ### The first match at a place -/

/-- The first match at a place is the first way that counts. -/
theorem match?_eq (advancing : Bool) (hc : c.noted = none) (hways : root.Ways c ws) :
    root.match? advancing c = (ws.find? (Way.counts advancing c)).map Way.stop := by
  have hclear : { c with noted := none } = c := by
    rw [← hc]
  rw [Node.match?, hclear, hways.tries]
  clear hways
  induction ws with
  | nil => rfl
  | cons w ws ih =>
      rw [List.findSome?_cons, ih]
      by_cases hcounts : w.counts advancing c = true
      · have hif : (advancing && w.stop.pos == c.pos) = false := Bool.not_eq_true' _ ▸ hcounts
        simp [List.find?_cons_of_pos hcounts, hif]
      · have hif : (advancing && w.stop.pos == c.pos) = true := by
          simpa [Way.counts] using hcounts
        simp [List.find?_cons_of_neg hcounts, hif]

/-- Where a search has to advance, a match is not empty. -/
theorem pos_ne_of_match? {d : Cursor} (hc : c.noted = none) (h : root.match? true c = some d) :
    d.pos ≠ c.pos := by
  obtain ⟨ws, hways, -⟩ := root.exists_ways c
  rw [match?_eq true hc hways, Option.map_eq_some_iff] at h
  obtain ⟨w, hfirst, rfl⟩ := h
  simpa [Way.counts] using List.find?_some hfirst

/-- What is noted behind a way is its last stretch. -/
theorem span_stop (hc : c.noted = none) (hw : w.StartsAt c) (start : Nat) :
    w.stop.span start = w.span start := by
  obtain ⟨p, r, -, hstop⟩ := hw.stop_eq
  have hnoted : w.stop.noted = w.stretches.getLast? := by
    rw [hstop, hc, Option.or_none]
  cases hlast : w.stretches.getLast? with
  | none => simp [Cursor.span, Way.span, hnoted, hlast]
  | some s => simp [Cursor.span, Way.span, hnoted, hlast]

/-- An empty way ends where it starts. -/
theorem cleared_stop (hc : c.noted = none) (hw : w.StartsAt c) (hpos : w.stop.pos = c.pos) :
    w.stop.cleared = c := by
  obtain ⟨p, r, hrest, hstop⟩ := hw.stop_eq
  have hnil : p = [] := by
    simpa [hstop] using hpos
  subst hnil
  have hr : r = c.rest := hrest.symm
  rw [hstop, hr]
  simp [Cursor.cleared, Cursor.past, ← hc]

/-! ### Matches from left to right -/

/-- The spans behind those of the matches at a place, when the last of these ends at `stop`. -/
def Node.spansBehind (root : Node) (c : Cursor) (stop : Nat) : List Span :=
  match c.rest with
  | [] => []
  | x :: r => root.spansFrom (stop - c.pos - 1) (c.pos + 1) (some x) r

theorem spansFrom_zero (root : Node) (c : Cursor) :
    root.spansFrom 0 c.pos c.before c.rest =
      (root.matchesAt c.cleared).map (Cursor.span c.pos) ++
        root.spansBehind c (((root.matchesAt c.cleared).getLast?.map Cursor.pos).getD c.pos) := by
  rw [Node.spansBehind]
  rcases hrest : c.rest with _ | ⟨x, r⟩
  · rw [Node.spansFrom, Cursor.cleared, hrest]
  · rw [Node.spansFrom, Cursor.cleared, hrest]

/-- Characters that belong to a match are passed over. -/
theorem spansFrom_length (root : Node) (u r : Text) (pos : Nat) (before : Option Char) :
    root.spansFrom u.length pos before (u ++ r) =
      root.spansFrom 0 (pos + u.length) (u.getLast?.or before) r := by
  induction u generalizing pos before with
  | nil => rfl
  | cons x u ih =>
      have hskip : root.spansFrom (x :: u).length pos before (x :: u ++ r) =
          root.spansFrom u.length (pos + 1) (some x) (u ++ r) := rfl
      have hpos : pos + (x :: u).length = pos + 1 + u.length := by
        rw [List.length_cons]
        omega
      rw [hskip, ih, Piece.getLast?_cons_or, hpos]

/-- Behind a match that is not empty, the search goes on where it ends. -/
theorem spansBehind_stop (root : Node) (hw : w.StartsAt c) (hpos : w.stop.pos ≠ c.pos) :
    root.spansBehind c w.stop.pos = root.spansFrom 0 w.stop.pos w.stop.before w.stop.rest := by
  obtain ⟨p, r, hrest, hstop⟩ := hw.stop_eq
  rw [hstop] at hpos ⊢
  cases p with
  | nil => simp at hpos
  | cons x p =>
      have hlen : c.pos + (x :: p).length - c.pos - 1 = p.length := by
        rw [List.length_cons]
        omega
      have hend : c.pos + (x :: p).length = c.pos + 1 + p.length := by
        rw [List.length_cons]
        omega
      rw [Node.spansBehind, hrest]
      simp only [List.cons_append, Cursor.past]
      rw [hlen, spansFrom_length, Piece.getLast?_cons_or, hend]

/-- Where there is no match, and behind one that is not empty, a search goes on as the spans from
there on say. -/
theorem searches_of_advancing (advancing : Bool) (hc : c.noted = none)
    (ih : ∀ d : Cursor, d.noted = none → d.rest.length < c.rest.length →
      root.Searches d false (root.spansFrom 0 d.pos d.before d.rest))
    (hadvances : ∀ d, root.match? advancing c = some d → d.pos ≠ c.pos) :
    root.Searches c advancing ((root.match? advancing c).toList.map (Cursor.span c.pos) ++
      root.spansBehind c (((root.match? advancing c).map Cursor.pos).getD c.pos)) := by
  obtain ⟨ws, hways, -⟩ := root.exists_ways c
  have hmatch := match?_eq advancing hc hways
  cases hfirst : ws.find? (Way.counts advancing c) with
  | none =>
      rw [hfirst] at hmatch
      simp only [hmatch, Option.map_none, Option.toList_none, List.map_nil, List.nil_append,
        Option.getD_none]
      rw [Node.spansBehind]
      rcases hrest : c.rest with _ | ⟨x, r⟩
      · exact .done hways hfirst hrest
      · have hnext := ih (c.past [x] r) hc (by simp [hrest])
        simp only [Nat.sub_self, Nat.zero_sub]
        exact .next hways hfirst hrest hnext
  | some w =>
      have hw := hways.startsAt w (List.mem_of_find?_eq_some hfirst)
      rw [hfirst] at hmatch
      have hpos : w.stop.pos ≠ c.pos := hadvances w.stop hmatch
      have hle := hw.pos_le
      have hlen := hw.pos_add_length
      have hafter := ih w.stop.cleared rfl (by simp only [Cursor.cleared]; omega)
      simp only [hmatch, Option.map_some, Option.toList_some, List.map_cons, List.map_nil,
        List.singleton_append, Option.getD_some]
      rw [span_stop hc hw, spansBehind_stop root hw hpos]
      refine .found hways hfirst ?_
      rw [beq_eq_false_iff_ne.2 hpos]
      exact hafter

/-- Behind an empty match, the next one at the same place, if there is one, is not empty. -/
theorem searches_of_empty {d : Cursor} (hc : c.noted = none)
    (ih : ∀ d : Cursor, d.noted = none → d.rest.length < c.rest.length →
      root.Searches d false (root.spansFrom 0 d.pos d.before d.rest))
    (hmatch : root.match? false c = some d) (hpos : d.pos = c.pos) :
    root.Searches c false (d.span c.pos ::
      ((root.match? true c).toList.map (Cursor.span c.pos) ++
        root.spansBehind c (((root.match? true c).map Cursor.pos).getD c.pos))) := by
  obtain ⟨ws, hways, -⟩ := root.exists_ways c
  rw [match?_eq false hc hways, Option.map_eq_some_iff] at hmatch
  obtain ⟨w, hfirst, rfl⟩ := hmatch
  have hw := hways.startsAt w (List.mem_of_find?_eq_some hfirst)
  have hbehind := searches_of_advancing true hc ih fun d => pos_ne_of_match? hc
  rw [span_stop hc hw]
  refine .found hways hfirst ?_
  rw [cleared_stop hc hw hpos, beq_iff_eq.2 hpos]
  exact hbehind

/-- **The spans of the matches are what a search finds.** -/
theorem searches_spansFrom (root : Node) (hc : c.noted = none) :
    root.Searches c false (root.spansFrom 0 c.pos c.before c.rest) := by
  -- the search goes on in front of less text, or for a match that is not empty
  induction hn : c.rest.length using Nat.strongRecOn generalizing c with
  | ind n ih =>
      have hclear : c.cleared = c := by
        rw [Cursor.cleared, ← hc]
      have hrest : ∀ d : Cursor, d.noted = none → d.rest.length < c.rest.length →
          root.Searches d false (root.spansFrom 0 d.pos d.before d.rest) := by
        intro d hd hlt
        exact ih _ (hn ▸ hlt) hd rfl
      rw [spansFrom_zero, hclear, Node.matchesAt]
      cases hmatch : root.match? false c with
      | none =>
          have hsearches := searches_of_advancing false hc hrest (by simp [hmatch])
          simpa [hmatch] using hsearches
      | some d =>
          by_cases hpos : d.pos = c.pos
          · have hsearches := searches_of_empty hc hrest hmatch hpos
            cases hnext : root.match? true c with
            | none => simpa [hnext, hpos] using hsearches
            | some d' => simpa [hnext, hpos] using hsearches
          · have hsearches := searches_of_advancing false hc hrest (by simp [hmatch, hpos])
            simpa [hmatch, hpos] using hsearches

/-- **A search through a text ends with the spans of the matches,** and with no others. -/
theorem Node.searches_iff (root : Node) (t : Text) :
    root.Searches (.between [] t) false ss ↔ ss = root.spansFrom 0 0 none t := by
  have hsearches : root.Searches (.between [] t) false (root.spansFrom 0 0 none t) :=
    searches_spansFrom root rfl
  constructor
  · intro h
    exact h.unique hsearches
  · rintro rfl
    exact hsearches

/-! ### What is found -/

@[simp] theorem envelopeStart_span (start : Nat) (w : Way) :
    (w.span start).envelopeStart = start := by
  rw [Way.span]
  split <;> rfl

@[simp] theorem envelopeEnd_span (start : Nat) (w : Way) :
    (w.span start).envelopeEnd = w.stop.pos := by
  rw [Way.span]
  split <;> rfl

/-- A pattern matches at a span of a text, in one of its ways there. -/
def Node.IsMatch (root : Node) (t : Text) (w : Way) (k : Span) : Prop :=
  ∃ before u after ws, t = before ++ (u ++ after) ∧
    root.Ways (.between before (u ++ after)) ws ∧ w ∈ ws ∧ w.stop.rest = after ∧
    k = w.span before.length

theorem past_between (before u after : Text) :
    (Cursor.between before (u ++ after)).past u after = .between (before ++ u) after := by
  simp [Cursor.between, Cursor.past, List.getLast?_append]

/-- A way between two parts of a text leads to a place further on between two parts of it. -/
theorem exists_cleared_stop {before after : Text} (hw : w.StartsAt (.between before after)) :
    ∃ u r, after = u ++ r ∧ w.stop.rest = r ∧ w.stop.cleared = .between (before ++ u) r := by
  obtain ⟨u, r, hrest, hstop⟩ := hw.stop_eq
  obtain rfl : after = u ++ r := hrest
  refine ⟨u, r, rfl, ?_, ?_⟩
  · rw [hstop]
    rfl
  · rw [hstop, ← past_between]
    rfl

/-- **What a search finds are matches.** -/
theorem Node.Searches.isMatch {before after : Text} (h : root.Searches c advancing ss)
    (hc : c = .between before after) : ∀ k ∈ ss, ∃ w, root.IsMatch (before ++ after) w k := by
  induction h generalizing before after with
  | found hways hfirst _ ih =>
      subst hc
      have hmem := List.mem_of_find?_eq_some hfirst
      obtain ⟨u, r, rfl, hr, hcleared⟩ := exists_cleared_stop (hways.startsAt _ hmem)
      intro k hk
      rcases List.mem_cons.1 hk with rfl | hk
      · exact ⟨_, before, u, r, _, rfl, hways, hmem, hr, rfl⟩
      · rw [← List.append_assoc]
        exact ih hcleared k hk
  | @next _ _ _ x r _ _ _ hrest _ ih =>
      subst hc
      obtain rfl : after = [x] ++ r := hrest
      rw [← List.append_assoc]
      exact ih (past_between before [x] r)
  | done =>
      intro k hk
      cases hk

/-- A match lies in the text. -/
theorem Node.IsMatch.bounds {t : Text} {k : Span} (h : root.IsMatch t w k) :
    0 ≤ k.envelopeStart ∧ k.envelopeStart ≤ k.envelopeEnd ∧ k.envelopeEnd ≤ t.length := by
  obtain ⟨before, u, after, ws, rfl, hways, hw, hrest, rfl⟩ := h
  have hlen := (hways.startsAt w hw).pos_add_length
  simp only [hrest, Cursor.between, List.length_append] at hlen
  simp only [envelopeStart_span, envelopeEnd_span, List.length_append]
  omega

/-- **The payload of a match** is the last stretch of the group, and lies in the envelope; it has no
place if and only if the group took no part. -/
theorem Node.IsMatch.payload {t : Text} {k : Span} (h : root.IsMatch t w k) :
    (w.stretches = [] ∧ k.payloadStart = -1 ∧ k.payloadEnd = -1) ∨
      ∃ i j : Nat, w.stretches.getLast? = some (i, j) ∧ k.payloadStart = i ∧ k.payloadEnd = j ∧
        k.envelopeStart ≤ i ∧ i ≤ j ∧ j ≤ k.envelopeEnd := by
  obtain ⟨before, u, after, ws, rfl, hways, hw, -, rfl⟩ := h
  rw [envelopeStart_span, envelopeEnd_span, Way.span]
  cases hlast : w.stretches.getLast? with
  | none => exact Or.inl ⟨List.getLast?_eq_none_iff.1 hlast, rfl, rfl⟩
  | some s =>
      obtain ⟨i, j⟩ := s
      obtain ⟨h₁, h₂, h₃⟩ := (hways.startsAt w hw).within (i, j) (List.mem_of_getLast? hlast)
      simp only [Cursor.between] at h₁ h₂ h₃
      exact Or.inr ⟨i, j, rfl, rfl, rfl, by omega, by omega, by omega⟩

/-- **What a search finds comes one behind the other:** each match ends before, or where, the next
one begins, and no two have the same envelope. -/
theorem Node.Searches.pairwise (h : root.Searches c advancing ss) :
    ss.Pairwise (fun a b => a.Precedes b ∧
        ¬(a.envelopeStart = b.envelopeStart ∧ a.envelopeEnd = b.envelopeEnd)) ∧
      ∀ k ∈ ss, c.pos ≤ k.envelopeStart ∧
        (advancing = true → k.envelopeStart = c.pos → k.envelopeEnd ≠ c.pos) := by
  induction h with
  | @found c advancing ws w ss hways hfirst _ ih =>
      obtain ⟨hpairwise, hbehind⟩ := ih
      have hle := (hways.startsAt w (List.mem_of_find?_eq_some hfirst)).pos_le
      have hcounts : advancing = true → w.stop.pos ≠ c.pos := by
        intro hadv
        simpa [Way.counts, hadv] using List.find?_some hfirst
      simp only [Cursor.cleared, beq_iff_eq] at hbehind
      constructor
      · refine List.pairwise_cons.2 ⟨?_, hpairwise⟩
        intro k hk
        obtain ⟨hpos, hdiffers⟩ := hbehind k hk
        refine ⟨by simpa [Span.Precedes] using hpos, ?_⟩
        rintro ⟨hstart, hend⟩
        rw [envelopeStart_span] at hstart
        rw [envelopeEnd_span] at hend
        -- with the same envelope, both would be empty and at the same place
        exact hdiffers (by omega) (by omega) (by omega)
      · intro k hk
        rcases List.mem_cons.1 hk with rfl | hk
        · rw [envelopeStart_span, envelopeEnd_span]
          exact ⟨Int.le_refl _, fun hadv _ => Int.ofNat_inj.not.2 (hcounts hadv)⟩
        · have hpos := (hbehind k hk).1
          refine ⟨by omega, ?_⟩
          intro hadv hstart
          have hne := hcounts hadv
          omega
  | @next c advancing ws x r ss _ _ _ _ ih =>
      obtain ⟨hpairwise, hbehind⟩ := ih
      refine ⟨hpairwise, ?_⟩
      intro k hk
      have hpos := (hbehind k hk).1
      simp only [Cursor.pos_past, List.length_singleton] at hpos
      exact ⟨by omega, by omega⟩
  | done => simp

end Pattern

end InlineSecrets
