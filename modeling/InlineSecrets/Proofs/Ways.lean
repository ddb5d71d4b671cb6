/-
**The ways in which a pattern matches.**

Matching tries the choices of a pattern one after the other, and keeps the first one behind which
what is to follow matches, too.  What there is to try does not depend on what is to follow: it is a
list of ways, in the order in which they are tried.  Each way ends at a place, and tells the
stretches that the group has matched on it, one after the other.

The list is given here by rules: one for each form of pattern, and three for the rounds of a
repetition.  Nothing in them bounds the number of rounds but the pattern and the text.  A list comes
about by finitely many rules; so that each pattern has one at each place says that trying comes to
an end, and that the bound on the rounds with which matching is defined never ends it early.

Main definitions:

* `InlineSecrets.Pattern.Way` — ways;
* `InlineSecrets.Pattern.Rounds`, `InlineSecrets.Pattern.Node.Ways` — **the ways of a repetition and
  of a pattern from a place on;**
* `InlineSecrets.Pattern.Way.StartsAt` — what all ways from a place on have in common;
* `InlineSecrets.Pattern.Matcher.Tries` — matching by trying ways in order.

Main results:

* `InlineSecrets.Pattern.Node.Ways.startsAt` — a way goes on in the text, the stretches lie on it,
  and the last one is noted in the end;
* `InlineSecrets.Pattern.Node.Ways.unique` — a pattern has one list of ways at a place;
* `InlineSecrets.Pattern.Node.exists_ways` — **it has one, and matching tries them in order.**
-/

import InlineSecrets.Proofs.Matching

set_option relaxedAutoImplicit false
set_option autoImplicit false

namespace InlineSecrets

namespace Pattern

/-! ### Ways -/

/-- A way in which a pattern matches: the stretches that the group has matched, one after the other,
and the place where the way ends. -/
structure Way where
  stretches : List (Nat × Nat)
  stop : Cursor

namespace Way

/-- Staying at a place. -/
def stay (c : Cursor) : Way := ⟨[], c⟩

/-- A way, and then another one from its end on. -/
def andThen (u v : Way) : Way := ⟨u.stretches ++ v.stretches, v.stop⟩

/-- A way that the group has matched, from an offset on. -/
def grouped (start : Nat) (u : Way) : Way :=
  ⟨u.stretches ++ [(start, u.stop.pos)], u.stop.note start u.stop.pos⟩

/-- Each of several ways, and then those that lead on from it. -/
def follow (us : List Way) (f : Way → List Way) : List Way :=
  us.flatMap fun u => (f u).map u.andThen

end Way

/-- **The ways of a repetition** behind `count` rounds, when the ways of a round are those of `R`.
The last round that did not have to be made, if there is one, started at the offset `last`. -/
inductive Rounds (R : Cursor → List Way → Prop) (greedy : Bool) (least : Nat) (most : Option Nat) :
    (count : Nat) → (last : Option Nat) → Cursor → List Way → Prop where
  /-- A round that has to be made. -/
  | required {count : Nat} {last : Option Nat} {c : Cursor} {us : List Way} {f : Way → List Way}
      (hcount : count < least) (hround : R c us)
      (hnext : ∀ u ∈ us, Rounds R greedy least most (count + 1) last u.stop (f u)) :
      Rounds R greedy least most count last c (Way.follow us f)
  /-- One more round, and then staying; the other way round if reluctant. -/
  | another {count : Nat} {last : Option Nat} {c : Cursor} {us : List Way} {f : Way → List Way}
      (hcount : least ≤ count) (hmost : ∀ n, most = some n → count < n) (hlast : last ≠ some c.pos)
      (hround : R c us)
      (hnext : ∀ u ∈ us, Rounds R greedy least most (count + 1) (some c.pos) u.stop (f u)) :
      Rounds R greedy least most count last c
        (if greedy then Way.follow us f ++ [.stay c] else .stay c :: Way.follow us f)
  /-- No more rounds: there have been as many as may be, or the last one has taken nothing. -/
  | enough {count : Nat} {last : Option Nat} {c : Cursor} (hcount : least ≤ count)
      (hdone : (∃ n, most = some n ∧ n ≤ count) ∨ last = some c.pos) :
      Rounds R greedy least most count last c [.stay c]

/-- **The ways in which a pattern matches from a place on,** in the order in which they are
tried. -/
def Node.Ways : Node → Cursor → List Way → Prop
  | empty, c, ws => ws = [.stay c]
  | one s, c, ws =>
      (∃ x r, c.rest = x :: r ∧ s.holds x = true ∧ ws = [.stay (c.past [x] r)]) ∨
        (∀ x r, c.rest = x :: r → s.holds x = false) ∧ ws = []
  | edge e, c, ws => e.holds c = true ∧ ws = [.stay c] ∨ e.holds c = false ∧ ws = []
  | seq a b, c, ws => ∃ us f, a.Ways c us ∧ (∀ u ∈ us, b.Ways u.stop (f u)) ∧ ws = Way.follow us f
  | alt a b, c, ws => ∃ us vs, a.Ways c us ∧ b.Ways c vs ∧ ws = us ++ vs
  | rounds greedy least most body, c, ws => Rounds body.Ways greedy least most 0 none c ws
  | group body, c, ws => ∃ us, body.Ways c us ∧ ws = us.map (Way.grouped c.pos)

/-! ### What all ways have in common -/

variable {c : Cursor} {u v w : Way} {us ws : List Way} {f : Way → List Way}

namespace Way

/-- A way from a place on: it goes on in the text, the stretches lie on it, and the last one is
noted in the end. -/
structure StartsAt (w : Way) (c : Cursor) : Prop where
  stop_eq : ∃ p r, c.rest = p ++ r ∧
    w.stop = { c.past p r with noted := w.stretches.getLast?.or c.noted }
  within : ∀ s ∈ w.stretches, c.pos ≤ s.1 ∧ s.1 ≤ s.2 ∧ s.2 ≤ w.stop.pos

namespace StartsAt

theorem pos_le (h : w.StartsAt c) : c.pos ≤ w.stop.pos := by
  obtain ⟨p, r, -, hstop⟩ := h.stop_eq
  simp [hstop]

theorem pos_add_length (h : w.StartsAt c) :
    w.stop.pos + w.stop.rest.length = c.pos + c.rest.length := by
  obtain ⟨p, r, hrest, hstop⟩ := h.stop_eq
  simp [hstop, hrest]
  omega

theorem stay (c : Cursor) : (Way.stay c).StartsAt c := by
  refine ⟨⟨[], c.rest, rfl, ?_⟩, ?_⟩
  · simp [Way.stay, Cursor.past]
  · simp [Way.stay]

/-- Taking a character. -/
theorem stay_past {x : Char} {r : Text} (hrest : c.rest = x :: r) :
    (Way.stay (c.past [x] r)).StartsAt c := by
  refine ⟨⟨[x], r, hrest, ?_⟩, ?_⟩
  · simp [Way.stay, Cursor.past]
  · simp [Way.stay]

theorem andThen (hu : u.StartsAt c) (hv : v.StartsAt u.stop) : (u.andThen v).StartsAt c := by
  have hle := hu.pos_le
  have hle' := hv.pos_le
  obtain ⟨⟨p, r, hrest, hstop⟩, hwithin⟩ := hu
  obtain ⟨⟨q, r', hrest', hstop'⟩, hwithin'⟩ := hv
  constructor
  · refine ⟨p ++ q, r', ?_, ?_⟩
    · rw [hstop] at hrest'
      rw [hrest, List.append_assoc, ← hrest']
      rfl
    · simp [Way.andThen, hstop', hstop, Cursor.past, List.getLast?_append, Option.or_assoc,
        Nat.add_assoc]
  · intro s hs
    rcases List.mem_append.1 hs with hs | hs
    · obtain ⟨h₁, h₂, h₃⟩ := hwithin s hs
      exact ⟨h₁, h₂, Nat.le_trans h₃ hle'⟩
    · obtain ⟨h₁, h₂, h₃⟩ := hwithin' s hs
      exact ⟨Nat.le_trans hle h₁, h₂, h₃⟩

theorem grouped (hu : u.StartsAt c) : (u.grouped c.pos).StartsAt c := by
  have hle := hu.pos_le
  obtain ⟨⟨p, r, hrest, hstop⟩, hwithin⟩ := hu
  constructor
  · refine ⟨p, r, hrest, ?_⟩
    simp [Way.grouped, hstop, Cursor.note]
  · intro s hs
    rcases List.mem_append.1 hs with hs | hs
    · exact hwithin s hs
    · rw [List.mem_singleton] at hs
      subst hs
      exact ⟨Nat.le_refl _, hle, Nat.le_refl _⟩

theorem follow (hus : ∀ u ∈ us, u.StartsAt c) (hf : ∀ u ∈ us, ∀ v ∈ f u, v.StartsAt u.stop) :
    ∀ w ∈ Way.follow us f, w.StartsAt c := by
  intro w hw
  obtain ⟨u, hu, hw⟩ := List.mem_flatMap.1 hw
  obtain ⟨v, hv, rfl⟩ := List.mem_map.1 hw
  exact (hus u hu).andThen (hf u hu v hv)

end StartsAt

end Way

theorem follow_congr {g : Way → List Way} (h : ∀ u ∈ us, f u = g u) :
    Way.follow us f = Way.follow us g := by
  refine List.flatMap_congr ?_
  intro u hu
  rw [h u hu]

section

variable {R : Cursor → List Way → Prop} {greedy : Bool} {least count : Nat} {most last : Option Nat}

theorem Rounds.startsAt (hR : ∀ c us, R c us → ∀ u ∈ us, u.StartsAt c)
    (h : Rounds R greedy least most count last c ws) : ∀ w ∈ ws, w.StartsAt c := by
  induction h with
  | required _ hround _ ih => exact Way.StartsAt.follow (hR _ _ hround) ih
  | @another _ _ c us f _ _ _ hround _ ih =>
      have hfollow := Way.StartsAt.follow (hR _ _ hround) ih
      intro w hw
      have hw : w ∈ Way.follow us f ∨ w = .stay c := by
        cases greedy with
        | false => simpa [or_comm] using hw
        | true => simpa using hw
      rcases hw with hw | rfl
      · exact hfollow w hw
      · exact Way.StartsAt.stay c
  | @enough _ _ c _ _ =>
      intro w hw
      rw [List.mem_singleton] at hw
      subst hw
      exact Way.StartsAt.stay c

/-- A repetition has one list of ways, if its rounds have. -/
theorem Rounds.unique (hR : ∀ c us us', R c us → R c us' → us = us') {ws' : List Way}
    (h : Rounds R greedy least most count last c ws)
    (h' : Rounds R greedy least most count last c ws') : ws = ws' := by
  induction h generalizing ws' with
  | required hcount hround _ ih =>
      cases h' with
      | required _ hround' hnext' =>
          obtain rfl := hR _ _ _ hround hround'
          exact follow_congr fun u hu => ih u hu (hnext' u hu)
      | another hcount' => omega
      | enough hcount' => omega
  | another hcount hmost hlast hround _ ih =>
      cases h' with
      | required hcount' => omega
      | another _ _ _ hround' hnext' =>
          obtain rfl := hR _ _ _ hround hround'
          rw [follow_congr fun u hu => ih u hu (hnext' u hu)]
      | enough _ hdone =>
          rcases hdone with ⟨n, hn, hle⟩ | hdone
          · have := hmost n hn
            omega
          · exact absurd hdone hlast
  | enough hcount hdone =>
      cases h' with
      | required hcount' => omega
      | another _ hmost hlast =>
          rcases hdone with ⟨n, hn, hle⟩ | hdone
          · have := hmost n hn
            omega
          · exact absurd hdone hlast
      | enough => rfl

end

/-! ### The ways of a pattern -/

/-- **What all ways of a pattern have in common.** -/
theorem Node.Ways.startsAt {a : Node} (h : a.Ways c ws) : ∀ w ∈ ws, w.StartsAt c := by
  induction a generalizing c ws with
  | empty =>
      obtain rfl := h
      simpa using Way.StartsAt.stay c
  | one s =>
      rcases h with ⟨x, r, hrest, -, rfl⟩ | ⟨-, rfl⟩
      · simpa using Way.StartsAt.stay_past hrest
      · simp
  | edge e =>
      rcases h with ⟨-, rfl⟩ | ⟨-, rfl⟩
      · simpa using Way.StartsAt.stay c
      · simp
  | seq a b iha ihb =>
      obtain ⟨us, f, ha, hb, rfl⟩ := h
      exact Way.StartsAt.follow (iha ha) fun u hu => ihb (hb u hu)
  | alt a b iha ihb =>
      obtain ⟨us, vs, ha, hb, rfl⟩ := h
      intro w hw
      rcases List.mem_append.1 hw with hw | hw
      · exact iha ha w hw
      · exact ihb hb w hw
  | rounds greedy least most body ih =>
      exact Rounds.startsAt (R := body.Ways) (fun c us => ih) h
  | group body ih =>
      obtain ⟨us, hus, rfl⟩ := h
      intro w hw
      obtain ⟨u, hu, rfl⟩ := List.mem_map.1 hw
      exact (ih hus u hu).grouped

/-- **A pattern has one list of ways at a place.** -/
theorem Node.Ways.unique {a : Node} {ws' : List Way} (h : a.Ways c ws) (h' : a.Ways c ws') :
    ws = ws' := by
  induction a generalizing c ws ws' with
  | empty =>
      obtain rfl := h
      exact h'.symm
  | one s =>
      rcases h with ⟨x, r, hrest, hx, rfl⟩ | ⟨hnone, rfl⟩ <;>
        rcases h' with ⟨x', r', hrest', hx', rfl⟩ | ⟨hnone', rfl⟩
      · rw [hrest] at hrest'
        cases hrest'
        rfl
      · simp [hnone' x r hrest] at hx
      · simp [hnone x' r' hrest'] at hx'
      · rfl
  | edge e =>
      rcases h with ⟨he, rfl⟩ | ⟨he, rfl⟩ <;> rcases h' with ⟨he', rfl⟩ | ⟨he', rfl⟩
      · rfl
      · simp [he] at he'
      · simp [he] at he'
      · rfl
  | seq a b iha ihb =>
      obtain ⟨us, f, ha, hb, rfl⟩ := h
      obtain ⟨us', f', ha', hb', rfl⟩ := h'
      obtain rfl := iha ha ha'
      exact follow_congr fun u hu => ihb (hb u hu) (hb' u hu)
  | alt a b iha ihb =>
      obtain ⟨us, vs, ha, hb, rfl⟩ := h
      obtain ⟨us', vs', ha', hb', rfl⟩ := h'
      rw [iha ha ha', ihb hb hb']
  | rounds greedy least most body ih =>
      exact Rounds.unique (R := body.Ways) (fun c us us' => ih) h h'
  | group body ih =>
      obtain ⟨us, hus, rfl⟩ := h
      obtain ⟨us', hus', rfl⟩ := h'
      rw [ih hus hus']

/-! ### Trying ways in order -/

/-- A matcher tries ways in order: it keeps the first one behind which what is to follow matches. -/
def Matcher.Tries (m : Matcher) (c : Cursor) (ws : List Way) : Prop :=
  ∀ k, m c k = ws.findSome? fun w => k w.stop

namespace Matcher.Tries

variable {m n : Matcher} {vs : List Way}

theorem stay (c : Cursor) : Tries (fun c k => k c) c [.stay c] := by
  intro k
  simp [Way.stay]

theorem append (hm : m.Tries c us) (hn : n.Tries c vs) :
    Tries (fun c k => (m c k).or (n c k)) c (us ++ vs) := by
  intro k
  rw [List.findSome?_append, ← hm k, ← hn k]

theorem follow (hm : m.Tries c us) (hn : ∀ u ∈ us, n.Tries u.stop (f u)) :
    Tries (fun c k => m c fun d => n d k) c (Way.follow us f) := by
  intro k
  refine (hm _).trans ?_
  clear hm
  induction us with
  | nil => rfl
  | cons u us ih =>
      have hcons : Way.follow (u :: us) f = (f u).map u.andThen ++ Way.follow us f := rfl
      have hu := hn u List.mem_cons_self k
      have hus := ih fun v hv => hn v (List.mem_cons_of_mem u hv)
      have hmap : ((f u).map u.andThen).findSome? (fun w => k w.stop) = n u.stop k := by
        rw [hu, List.findSome?_map]
        rfl
      rw [List.findSome?_cons, hcons, List.findSome?_append, hus, hmap]
      cases n u.stop k <;> rfl

theorem grouped (hm : m.Tries c us) :
    Tries (fun c k => m c fun d => k (d.note c.pos d.pos)) c (us.map (Way.grouped c.pos)) := by
  intro k
  refine (hm _).trans ?_
  rw [List.findSome?_map]
  rfl

end Matcher.Tries

/-- How many rounds there can still be: those that have to be made, one for each character that is
left, and a last one that takes none. -/
def roundsLeft (least count : Nat) (last : Option Nat) (c : Cursor) : Nat :=
  least - count + c.rest.length + if last = some c.pos then 1 else 2

section

variable {R : Cursor → List Way → Prop} {body : Matcher} {greedy : Bool} {least count fuel : Nat}
  {most last : Option Nat}

theorem roundsLeft_required (last : Option Nat) (hcount : count < least) (hu : u.StartsAt c) :
    roundsLeft least (count + 1) last u.stop < roundsLeft least count last c := by
  have hle := hu.pos_le
  have hlen := hu.pos_add_length
  unfold roundsLeft
  by_cases hlast : last = some u.stop.pos
  · rw [if_pos hlast]
    split <;> omega
  · rw [if_neg hlast]
    split
    · next hc =>
      -- the round ends at a new place, so there is less text behind it
      have hne : u.stop.pos ≠ c.pos := by
        intro heq
        rw [heq] at hlast
        exact hlast hc
      omega
    · omega

theorem roundsLeft_another (least count : Nat) (hlast : last ≠ some c.pos) (hu : u.StartsAt c) :
    roundsLeft least (count + 1) (some c.pos) u.stop < roundsLeft least count last c := by
  have hle := hu.pos_le
  have hlen := hu.pos_add_length
  unfold roundsLeft
  rw [if_neg hlast]
  split
  · omega
  · next hne =>
    have hne : c.pos ≠ u.stop.pos := fun heq => hne (congrArg some heq)
    omega

theorem rounds_required (fuel : Nat) (last : Option Nat) (hcount : count < least)
    (k : Cursor → Option Cursor) :
    body.rounds greedy least most (fuel + 1) count last c k =
      body c fun d => body.rounds greedy least most fuel (count + 1) last d k := by
  rw [Matcher.rounds, if_pos hcount]

theorem rounds_another (fuel : Nat) (hcount : least ≤ count)
    (hmost : ∀ n, most = some n → count < n) (hlast : last ≠ some c.pos)
    (k : Cursor → Option Cursor) :
    body.rounds greedy least most (fuel + 1) count last c k =
      let round := body c fun d => body.rounds greedy least most fuel (count + 1) (some c.pos) d k
      if greedy then round.or (k c) else (k c).or round := by
  have hall : most.all (count < ·) = true := by
    cases most with
    | none => rfl
    | some n => simpa using hmost n rfl
  simp [Matcher.rounds, Nat.not_lt.2 hcount, hall, hlast, Option.orElse_eq_or]

theorem rounds_enough (fuel : Nat) (hcount : least ≤ count)
    (hdone : (∃ n, most = some n ∧ n ≤ count) ∨ last = some c.pos) (k : Cursor → Option Cursor) :
    body.rounds greedy least most (fuel + 1) count last c k = k c := by
  have hnone : (most.all (count < ·) && last != some c.pos) = false := by
    rcases hdone with ⟨n, rfl, hle⟩ | rfl
    · simp [Nat.not_lt.2 hle]
    · simp
  cases greedy <;>
    simp only [Matcher.rounds, Nat.not_lt.2 hcount, hnone, if_false, if_true, Option.orElse_eq_or,
      Option.or_none, Option.none_or, Bool.false_eq_true]

/-- **Repetitions try their ways in order,** if their rounds do, when they are given as many rounds
as there can be. -/
theorem exists_rounds (hR : ∀ c us, R c us → ∀ u ∈ us, u.StartsAt c)
    (hbody : ∀ c, ∃ us, R c us ∧ body.Tries c us) (hfuel : roundsLeft least count last c ≤ fuel) :
    ∃ ws, Rounds R greedy least most count last c ws ∧
      (body.rounds greedy least most fuel count last).Tries c ws := by
  induction fuel generalizing c count last with
  | zero =>
      unfold roundsLeft at hfuel
      split at hfuel <;> omega
  | succ fuel ih =>
      obtain ⟨us, hround, htries⟩ := hbody c
      have hstarts := hR c us hround
      -- behind each way of one more round there are the ways of the rounds after it
      have hnext : ∀ last', (∀ u ∈ us, roundsLeft least (count + 1) last' u.stop ≤ fuel) →
          ∃ f, (∀ u ∈ us, Rounds R greedy least most (count + 1) last' u.stop (f u)) ∧
            Matcher.Tries (fun c k => body c fun d =>
              body.rounds greedy least most fuel (count + 1) last' d k) c (Way.follow us f) := by
        intro last' hle
        choose! f hf hfollow using fun u hu => ih (hle u hu)
        exact ⟨f, hf, htries.follow hfollow⟩
      by_cases hcount : count < least
      · have hle : ∀ u ∈ us, roundsLeft least (count + 1) last u.stop ≤ fuel := by
          intro u hu
          have hlt := roundsLeft_required last hcount (hstarts u hu)
          omega
        obtain ⟨f, hf, hfollow⟩ := hnext last hle
        refine ⟨_, .required hcount hround hf, ?_⟩
        intro k
        rw [rounds_required fuel last hcount]
        exact hfollow k
      · have hcount : least ≤ count := Nat.not_lt.1 hcount
        by_cases hdone : (∃ n, most = some n ∧ n ≤ count) ∨ last = some c.pos
        · refine ⟨_, .enough hcount hdone, ?_⟩
          intro k
          rw [rounds_enough fuel hcount hdone]
          exact Matcher.Tries.stay c k
        · obtain ⟨hmost, hlast⟩ := not_or.1 hdone
          have hmost : ∀ n, most = some n → count < n := by
            intro n hn
            exact Nat.lt_of_not_le fun hle => hmost ⟨n, hn, hle⟩
          have hle : ∀ u ∈ us, roundsLeft least (count + 1) (some c.pos) u.stop ≤ fuel := by
            intro u hu
            have hlt := roundsLeft_another least count hlast (hstarts u hu)
            omega
          obtain ⟨f, hf, hfollow⟩ := hnext (some c.pos) hle
          refine ⟨_, .another hcount hmost hlast hround hf, ?_⟩
          intro k
          rw [rounds_another fuel hcount hmost hlast]
          cases greedy with
          | false => exact (Matcher.Tries.stay c).append hfollow k
          | true => exact hfollow.append (Matcher.Tries.stay c) k

end

/-- **Every pattern has a list of ways at every place, and matching tries them in order.** -/
theorem Node.exists_ways (a : Node) (c : Cursor) :
    ∃ ws, a.Ways c ws ∧ Matcher.Tries a.run c ws := by
  induction a generalizing c with
  | empty => exact ⟨_, rfl, Matcher.Tries.stay c⟩
  | one s =>
      rcases hrest : c.rest with _ | ⟨x, r⟩
      · exact ⟨[], Or.inr ⟨by simp [hrest], rfl⟩, fun k => run_one_of_nil hrest⟩
      · by_cases hx : s.holds x = true
        · refine ⟨_, Or.inl ⟨x, r, hrest, hx, rfl⟩, fun k => ?_⟩
          rw [run_one_of_holds hrest hx]
          exact Matcher.Tries.stay _ k
        · refine ⟨[], Or.inr ⟨?_, rfl⟩, fun k => run_one_of_not_holds hrest hx⟩
          simpa [hrest] using hx
  | edge e =>
      by_cases he : e.holds c = true
      · refine ⟨_, Or.inl ⟨he, rfl⟩, fun k => ?_⟩
        rw [Node.run, if_pos he]
        exact Matcher.Tries.stay c k
      · refine ⟨[], Or.inr ⟨by simpa using he, rfl⟩, fun k => ?_⟩
        rw [Node.run, if_neg he]
        rfl
  | seq a b iha ihb =>
      obtain ⟨us, hus, htries⟩ := iha c
      choose f hf hfollow using fun u : Way => ihb u.stop
      exact ⟨_, ⟨us, f, hus, fun u _ => hf u, rfl⟩, htries.follow fun u _ => hfollow u⟩
  | alt a b iha ihb =>
      obtain ⟨us, hus, htries⟩ := iha c
      obtain ⟨vs, hvs, htries'⟩ := ihb c
      refine ⟨_, ⟨us, vs, hus, hvs, rfl⟩, fun k => ?_⟩
      rw [Node.run, Option.orElse_eq_or]
      exact htries.append htries' k
  | rounds greedy least most body ih =>
      refine exists_rounds (R := body.Ways) (fun c us => Node.Ways.startsAt) ih ?_
      simp [roundsLeft]
  | group body ih =>
      obtain ⟨us, hus, htries⟩ := ih c
      exact ⟨_, ⟨us, hus, rfl⟩, htries.grouped⟩

/-- The ways of a pattern are those that matching tries. -/
theorem Node.Ways.tries {a : Node} (h : a.Ways c ws) : Matcher.Tries a.run c ws := by
  obtain ⟨ws', h', htries⟩ := a.exists_ways c
  obtain rfl := h.unique h'
  exact htries

end Pattern

end InlineSecrets
