/-
**What engines rely on in locators.**

An engine replaces tokens from the last one on, without looking at how their spans lie.  That this
is simultaneous substitution rests on the locator: its spans have to lie in the text, each one behind
the one before.  Locators keep to that, for every pattern and every text.

The group of a pattern need not take part in a match.  Then the payload has no place: both its
offsets are -1.  As an offset counts from the end when it is negative, these name a slice, which is
empty in every text, also in one whose end has been replaced.  So nothing changes when such a
payload is put at the front of the envelope, and what holds of spans that fit the text carries over.

A pattern is known to have one group from the number of groups that was counted while it was read.
That number is right, so the stretches on a way through the pattern are those of its only group.

Main definitions:

* `InlineSecrets.Span.IsPlaced` — spans that lie in a text, the payload in the envelope or without a
  place;
* `InlineSecrets.Pattern.Node.groups` — the number of groups in a pattern;
* `InlineSecrets.Pattern.Node.Contract` — **what engines rely on.**

Main results:

* `InlineSecrets.Engine.run_eq_of_isPlaced` — substitution where payloads have no place;
* `InlineSecrets.Pattern.groups_of_parse?` — reading counts the groups;
* `InlineSecrets.Pattern.Node.contract` — the spans of a pattern keep the contract;
* `InlineSecrets.Locator.contract_of_oneGroup` — **so do those of every locator.**
-/

import InlineSecrets.Proofs.Searching

set_option relaxedAutoImplicit false
set_option autoImplicit false

namespace InlineSecrets

/-! ### Spans whose payload has no place -/

/-- Nothing lies between an offset and itself. -/
theorem Text.slice_self (t : Text) (i : Int) : t.slice i i = [] := by
  rw [slice, List.drop_eq_nil_iff, List.length_take]
  exact Nat.min_le_left _ _

namespace Span

/-- The envelope lies in the text, and the payload in the envelope, unless it has no place. -/
structure IsPlaced (k : Span) (t : Text) : Prop where
  start_nonneg : 0 ≤ k.envelopeStart
  start_le_end : k.envelopeStart ≤ k.envelopeEnd
  end_le_length : k.envelopeEnd ≤ t.length
  payload : (k.payloadStart = -1 ∧ k.payloadEnd = -1) ∨ (k.envelopeStart ≤ k.payloadStart ∧
    k.payloadStart ≤ k.payloadEnd ∧ k.payloadEnd ≤ k.envelopeEnd)

/-- The span with a payload that has no place put at the front of the envelope. -/
def anchored (k : Span) : Span :=
  if k.payloadStart = -1 then
    { k with payloadStart := k.envelopeStart, payloadEnd := k.envelopeStart }
  else k

@[simp] theorem envelopeStart_anchored (k : Span) : k.anchored.envelopeStart = k.envelopeStart := by
  unfold anchored
  split <;> rfl

@[simp] theorem envelopeEnd_anchored (k : Span) : k.anchored.envelopeEnd = k.envelopeEnd := by
  unfold anchored
  split <;> rfl

@[simp] theorem envelope_anchored (k : Span) (t : Text) : k.anchored.envelope t = k.envelope t := by
  simp [envelope]

@[simp] theorem replace_anchored (k : Span) (t r : Text) :
    k.anchored.replace t r = k.replace t r := by
  simp [replace]

variable {k : Span} {t : Text}

theorem IsPlaced.fits_anchored (h : k.IsPlaced t) : k.anchored.Fits t := by
  obtain ⟨h₀, hle, hlen, hpayload⟩ := h
  unfold anchored
  split
  · exact ⟨h₀, Int.le_refl _, Int.le_refl _, hle, hlen⟩
  · next hne =>
    rcases hpayload with ⟨hstart, -⟩ | ⟨h₁, h₂, h₃⟩
    · exact absurd hstart hne
    · exact ⟨h₀, h₁, h₂, h₃, hlen⟩

/-- A payload that has no place is empty in every text, and so it is at the front of the
envelope. -/
theorem IsPlaced.payload_anchored (h : k.IsPlaced t) (u : Text) :
    k.anchored.payload u = k.payload u := by
  unfold anchored
  split
  · next hstart =>
    have hend : k.payloadEnd = -1 := by
      rcases h.payload with ⟨-, hend⟩ | ⟨h₁, -, -⟩
      · exact hend
      · have := h.start_nonneg
        omega
    rw [Span.payload, Span.payload, hstart, hend, Text.slice_self, Text.slice_self]
  · rfl

end Span

namespace Splicing

variable {σ ε : Type} {f : Transform σ ε} {place : Placing} {t : Text} {ks : List Span}

theorem spliceEach_anchored (hks : ∀ k ∈ ks, k.IsPlaced t) (u : Text) (s : σ) :
    spliceEach f place (ks.map Span.anchored) u s = spliceEach f place ks u s := by
  induction ks generalizing u s with
  | nil => rfl
  | cons k ks ih =>
      obtain ⟨hk, hks⟩ := List.forall_mem_cons.1 hks
      simp only [List.map_cons, spliceEach, hk.payload_anchored, Span.envelopeStart_anchored,
        Span.envelope_anchored, Span.replace_anchored, ih hks]

theorem spliceBack_anchored (hks : ∀ k ∈ ks, k.IsPlaced t) (u : Text) (s : σ) :
    spliceBack f place (ks.map Span.anchored) u s = spliceBack f place ks u s := by
  rw [spliceBack, ← List.map_reverse]
  exact spliceEach_anchored (fun k hk => hks k (List.mem_reverse.1 hk)) u s

theorem map_payload_anchored (hks : ∀ k ∈ ks, k.IsPlaced t) (u : Text) :
    (ks.map Span.anchored).map (Span.payload · u) = ks.map (Span.payload · u) := by
  rw [List.map_map]
  exact List.map_congr_left fun k hk => (hks k hk).payload_anchored u

theorem substituteFrom_anchored (hks : ∀ k ∈ ks, k.IsPlaced t) (i : Int) (results : List Text) :
    substituteFrom t i (replacements place t (ks.map Span.anchored) results) =
      substituteFrom t i (replacements place t ks results) := by
  induction ks generalizing i results with
  | nil => rfl
  | cons k ks ih =>
      obtain ⟨hk, hks⟩ := List.forall_mem_cons.1 hks
      cases results with
      | nil => rfl
      | cons r results =>
          have hrest := ih hks k.envelopeEnd results
          simp only [replacements] at hrest
          simp only [replacements, List.map_cons, List.zipWith_cons_cons, substituteFrom,
            hk.payload_anchored, Span.envelope_anchored, Span.envelopeStart_anchored,
            Span.envelopeEnd_anchored, hrest]

/-- **Replacing from the last token to the first is substitution,** also where payloads have no
place. -/
theorem spliceBack_eq_substitute_of_isPlaced {results : List Text} {s s' : σ}
    (hks : ∀ k ∈ ks, k.IsPlaced t) (hord : ks.Pairwise Span.Precedes)
    (hall : transformAll f (ks.map (Span.payload · t)).reverse s = (.ok results.reverse, s')) :
    spliceBack f place ks t s = (.ok (substitute t (replacements place t ks results)), s') := by
  have hfits : ∀ k ∈ ks.map Span.anchored, k.Fits t := by
    intro k hk
    obtain ⟨l, hl, rfl⟩ := List.mem_map.1 hk
    exact (hks l hl).fits_anchored
  have hord : (ks.map Span.anchored).Pairwise Span.Precedes := by
    refine List.pairwise_map.2 (hord.imp ?_)
    intro a b hab
    simpa [Span.Precedes] using hab
  rw [← map_payload_anchored hks] at hall
  rw [← spliceBack_anchored hks, spliceBack_eq_substitute hfits hord hall]
  rw [substitute, substituteFrom_anchored hks, substitute]

end Splicing

namespace Engine

open Splicing

variable {σ ε : Type}

/-- **An engine substitutes,** also where payloads have no place. -/
theorem run_eq_of_isPlaced {e : Engine σ ε} {wrapTokens : Bool} {place : Placing} {t : Text}
    {ks : List Span} {results : List Text} {s s' : σ}
    (hplace : e.placing? wrapTokens = some place) (hlocate : e.locate t = .ok ks)
    (hks : ∀ k ∈ ks, k.IsPlaced t) (hord : ks.Pairwise Span.Precedes)
    (hall : transformAll e.transform (ks.map (Span.payload · t)).reverse s =
      (.ok results.reverse, s')) :
    e.run wrapTokens t s = (.ok (substitute t (replacements place t ks results)), s') := by
  rw [run_of_placing? hplace, hlocate]
  simp only [splice, spliceBack_eq_substitute_of_isPlaced hks hord hall]

end Engine

/-! ### Patterns with one group -/

namespace Pattern

/-- The number of groups in a pattern. -/
def Node.groups : Node → Nat
  | empty | one _ | edge _ => 0
  | seq a b | alt a b => a.groups + b.groups
  | rounds _ _ _ body => body.groups
  | group body => body.groups + 1

/-- Reading with so many steps counts the groups of what it reads. -/
def CountsGroups (fuel : Nat) : Prop :=
  ∀ {goal : Goal} {t : Text} {a : Node} {n : Nat} {r : Text},
    read? fuel goal t = some (a, n, r) → a.groups = n

section

variable {fuel n : Nat} {t r : Text} {a : Node}

theorem CountsGroups.alternatives (h : CountsGroups fuel)
    (hread : read? (fuel + 1) .alternatives t = some (a, n, r)) : a.groups = n := by
  simp only [read?, bind] at hread
  obtain ⟨⟨a₁, n₁, r₁⟩, h₁, hread⟩ := Option.bind_eq_some_iff.1 hread
  have ha := h h₁
  simp only at hread
  split at hread
  · obtain ⟨⟨b, m, r₂⟩, h₂, hread⟩ := Option.bind_eq_some_iff.1 hread
    cases hread
    simp [Node.groups, ha, h h₂]
  · cases hread
    exact ha

theorem CountsGroups.sequence (h : CountsGroups fuel)
    (hread : read? (fuel + 1) .sequence t = some (a, n, r)) : a.groups = n := by
  simp only [read?, bind] at hread
  split at hread
  · cases hread
    rfl
  · split at hread
    · cases hread
      rfl
    · obtain ⟨⟨a₁, n₁, r₁⟩, h₁, hread⟩ := Option.bind_eq_some_iff.1 hread
      have ha := h h₁
      -- the part as it is read, or a repetition of it, and what follows
      have hseq : ∀ (a₂ : Node) (r₂ : Text), a₂.groups = n₁ →
          ((read? fuel .sequence r₂).bind fun x =>
            pure (a₂.seq x.1, n₁ + x.2.1, x.2.2)) = some (a, n, r) → a.groups = n := by
        intro a₂ r₂ ha₂ hread
        obtain ⟨⟨b, m, r₃⟩, h₂, hread⟩ := Option.bind_eq_some_iff.1 hread
        cases hread
        simp [Node.groups, ha₂, h h₂]
      simp only at hread
      split at hread
      · exact hseq a₁ _ ha hread
      · split at hread
        · split at hread
          · cases hread
          · exact hseq (.rounds _ _ _ a₁) _ ha hread
        · split at hread
          · cases hread
          · exact hseq (.rounds _ _ _ a₁) _ ha hread

/-- What stands in parentheses, which make a group when `notes` is set. -/
theorem CountsGroups.enclosed (h : CountsGroups fuel) (notes : Bool) {u : Text}
    (hread : ((read? fuel .alternatives u).bind fun x =>
      match x.2.2 with
      | ')' :: r => some (if notes then x.1.group else x.1, x.2.1 + notes.toNat, r)
      | _ => none) = some (a, n, r)) : a.groups = n := by
  obtain ⟨⟨a₁, n₁, r₁⟩, h₁, hread⟩ := Option.bind_eq_some_iff.1 hread
  have ha := h h₁
  simp only at hread
  split at hread
  · cases hread
    cases notes with
    | false => simpa using ha
    | true => simpa [Node.groups] using ha
  · cases hread

theorem CountsGroups.part (h : CountsGroups fuel)
    (hread : read? (fuel + 1) .part t = some (a, n, r)) : a.groups = n := by
  simp only [read?, bind] at hread
  split at hread
  · cases hread
  · exact h.enclosed false hread
  -- behind a character of a set, and where there is none
  · split at hread
    · cases hread
      rfl
    · cases hread
  · split at hread
    · cases hread
      rfl
    · cases hread
  -- a group with a name
  · split at hread
    · split at hread
      · cases hread
      · exact h.enclosed true hread
    · cases hread
  · cases hread
  · exact h.enclosed true hread
  -- sets, signs and characters
  · obtain ⟨⟨s, r₁⟩, -, hread⟩ := Option.map_eq_some_iff.1 hread
    cases hread
    rfl
  · cases hread
    rfl
  · cases hread
    rfl
  · cases hread
    rfl
  · obtain ⟨⟨e, r₁⟩, -, hread⟩ := Option.map_eq_some_iff.1 hread
    cases e <;> cases hread <;> rfl
  · split at hread
    · cases hread
    · cases hread
      rfl

end

theorem countsGroups (fuel : Nat) : CountsGroups fuel := by
  induction fuel with
  | zero =>
      intro goal t a n r hread
      simp [read?] at hread
  | succ fuel ih =>
      intro goal t a n r hread
      cases goal with
      | alternatives => exact ih.alternatives hread
      | sequence => exact ih.sequence hread
      | part => exact ih.part hread

/-- **Reading a pattern counts its groups.** -/
theorem groups_of_parse? {source : Text} {root : Node} {n : Nat}
    (h : parse? source = some (root, n)) : root.groups = n := by
  rw [parse?] at h
  split at h
  · next hread =>
    cases h
    exact countsGroups _ hread
  · cases h

/-! ### The contract -/

open Splicing

/-- **What engines rely on** in the spans that are found in a text for a pattern. -/
structure Node.Contract (root : Node) (t : Text) (ks : List Span) : Prop where
  /-- The search through the text comes to an end, with these spans and no others. -/
  searches_iff : ∀ ks', root.Searches (.between [] t) false ks' ↔ ks' = ks
  ordered : ks.Pairwise (·.envelopeStart ≤ ·.envelopeStart)
  disjoint : ks.Pairwise Span.Disjoint
  /-- Of two that begin at the same place, the first one is empty. -/
  precedes : ks.Pairwise Span.Precedes
  /-- No two have the same envelope. -/
  distinct : ks.Pairwise fun a b =>
    ¬(a.envelopeStart = b.envelopeStart ∧ a.envelopeEnd = b.envelopeEnd)
  envelope : ∀ k ∈ ks, 0 ≤ k.envelopeStart ∧ k.envelopeStart ≤ k.envelopeEnd ∧
    k.envelopeEnd ≤ t.length
  /-- Each of them is a match.  If the group took no part in it, the payload has no place, and is
  empty in every text; else it is the last stretch of the group, and lies in the envelope. -/
  payload : ∀ k ∈ ks, ∃ w, root.IsMatch t w k ∧
    (w.stretches = [] ∧ k.payloadStart = -1 ∧ k.payloadEnd = -1 ∧ (∀ u, k.payload u = []) ∨
      ∃ i j : Nat, w.stretches.getLast? = some (i, j) ∧ k.payloadStart = i ∧ k.payloadEnd = j ∧
        k.envelopeStart ≤ i ∧ i ≤ j ∧ j ≤ k.envelopeEnd)
  /-- An engine replaces all of them at once, when its transformation succeeds for the payloads of
  the text. -/
  substitutes : ∀ {σ ε : Type} (e : Engine σ ε) (wrapTokens : Bool) (place : Placing)
    (results : List Text) (s s' : σ), e.locate t = .ok ks → e.placing? wrapTokens = some place →
    transformAll e.transform (ks.map (Span.payload · t)).reverse s = (.ok results.reverse, s') →
    e.run wrapTokens t s = (.ok (substitute t (replacements place t ks results)), s')

variable {root : Node} {t : Text} {w : Way} {k : Span}

theorem Node.IsMatch.isPlaced (h : root.IsMatch t w k) : k.IsPlaced t := by
  obtain ⟨h₀, hle, hlen⟩ := h.bounds
  refine ⟨h₀, hle, hlen, ?_⟩
  rcases h.payload with ⟨-, hstart, hend⟩ | ⟨i, j, -, hstart, hend, h₁, h₂, h₃⟩
  · exact Or.inl ⟨hstart, hend⟩
  · exact Or.inr (by omega)

/-- **The spans that are found for a pattern keep the contract.** -/
theorem Node.contract (root : Node) (t : Text) : root.Contract t (root.spansFrom 0 0 none t) := by
  have hsearches := (root.searches_iff t).2 rfl
  have hmatches : ∀ k ∈ root.spansFrom 0 0 none t, ∃ w, root.IsMatch t w k := hsearches.isMatch rfl
  have hplaced : ∀ k ∈ root.spansFrom 0 0 none t, k.IsPlaced t := by
    intro k hk
    obtain ⟨w, hw⟩ := hmatches k hk
    exact hw.isPlaced
  obtain ⟨hpairwise, -⟩ := hsearches.pairwise
  have hprecedes := hpairwise.imp And.left
  constructor
  · exact fun ks' => root.searches_iff t
  · refine hprecedes.imp_of_mem ?_
    intro a b ha _ hab
    exact Int.le_trans (hplaced a ha).start_le_end hab
  · exact hprecedes.imp Or.inl
  · exact hprecedes
  · exact hpairwise.imp And.right
  · intro k hk
    exact ⟨(hplaced k hk).start_nonneg, (hplaced k hk).start_le_end, (hplaced k hk).end_le_length⟩
  · intro k hk
    obtain ⟨w, hw⟩ := hmatches k hk
    refine ⟨w, hw, ?_⟩
    rcases hw.payload with ⟨hnone, hstart, hend⟩ | hsome
    · refine Or.inl ⟨hnone, hstart, hend, ?_⟩
      intro u
      rw [Span.payload, hstart, hend, Text.slice_self]
    · exact Or.inr hsome
  · intro σ ε e wrapTokens place results s s' hlocate hplace hall
    exact Engine.run_eq_of_isPlaced hplace hlocate hplaced hprecedes hall

end Pattern

namespace Locator

/-- **Every locator keeps the contract of the engines.**  A text that is read as a pattern with one
group is accepted, and the pattern has just one.  A locator that is given by it finds spans that lie
in the text, each behind the one before and no two the same, whatever the text; its search comes to
an end; and the engines that work with these spans replace all of them at once. -/
theorem contract_of_oneGroup {source : Text} {root : Pattern.Node}
    (h : Pattern.parse? source = some (root, 1)) :
    Pattern.compile source = .ok ⟨source, root, h⟩ ∧ root.groups = 1 ∧
      ∀ l : Locator, l.patternText = source → ∀ t, root.Contract t (l.locate t) := by
  refine ⟨Pattern.compile_of_parse? h, Pattern.groups_of_parse? h, ?_⟩
  intro l hl t
  have hlocate : l.locate t = (Locator.pattern ⟨source, root, h⟩).locate t :=
    locate_eq_of_patternText hl t
  rw [hlocate]
  exact root.contract t

/-- A pattern with a group that takes no part in some matches, and with empty matches. -/
def nullable : Pattern.Node :=
  .alt (.seq (.group (.seq (.one (.single 'a')) .empty)) .empty)
    (.seq (.rounds false 0 (some 1) (.one (.single 'b'))) .empty)

theorem parse?_nullable : Pattern.parse? "(a)|b??".toList = some (nullable, 1) := rfl

/-- An engine on a locator: it doubles payloads, keeps a list of those it was called for, and has a
wrapper that writes down all that it is shown. -/
def doubling (l : Locator) : Engine (List Text) Unit :=
  { Engine.doubling .redact [] with locate := fun t => .ok (l.locate t) }

/-- Behind the match of the group there is an empty one, at its place one that is not, and an empty
one at the end of the text. -/
theorem contract_of_oneGroup_nullable :
    Pattern.parse? "(a)|b??".toList = some (nullable, 1) ∧
      (pattern ⟨"(a)|b??".toList, nullable, parse?_nullable⟩).locate "ab".toList =
        [⟨0, 0, 1, 1⟩, ⟨1, -1, -1, 1⟩, ⟨1, -1, -1, 2⟩, ⟨2, -1, -1, 2⟩] ∧
      nullable.Contract "ab".toList
        [⟨0, 0, 1, 1⟩, ⟨1, -1, -1, 1⟩, ⟨1, -1, -1, 2⟩, ⟨2, -1, -1, 2⟩] ∧
      (doubling (pattern ⟨"(a)|b??".toList, nullable, parse?_nullable⟩)).run false "ab".toList [] =
        (.ok "aa|a|a||||b||".toList, [[], [], [], "a".toList]) := by
  obtain ⟨-, -, hcontract⟩ := contract_of_oneGroup parse?_nullable
  have hab := hcontract (pattern ⟨"(a)|b??".toList, nullable, parse?_nullable⟩) rfl "ab".toList
  have hlocate : (pattern ⟨"(a)|b??".toList, nullable, parse?_nullable⟩).locate "ab".toList =
      [⟨0, 0, 1, 1⟩, ⟨1, -1, -1, 1⟩, ⟨1, -1, -1, 2⟩, ⟨2, -1, -1, 2⟩] := by decide
  refine ⟨parse?_nullable, hlocate, hlocate ▸ hab, ?_⟩
  exact hab.substitutes (doubling _) false _ ["aa".toList, [], [], []] [] _ rfl rfl rfl

end Locator

end InlineSecrets
