/-
**Splicing is simultaneous substitution.**

An engine transforms and replaces its tokens one at a time, from the last one to the first, each in
the text that the replacements further right have left.  What comes out is described here without
that text: all envelopes are replaced at once, and every payload and envelope is a slice of the text
that was given.

This holds for spans of which each ends before, or where, the next one begins.  It is not enough
that they are listed by their starts and have no character in common: an empty envelope listed
behind a longer one that begins at the same place would move that one.

Main definitions:

* `InlineSecrets.Span.Fits`, `InlineSecrets.Span.Precedes` — spans that lie in a text, and in order;
* `InlineSecrets.Splicing.substitute` — **all envelopes replaced at once**;
* `InlineSecrets.Splicing.transformAll` — a transformation called for one payload after the other;
* `InlineSecrets.Splicing.Steady` — transformations for which the state does not matter.

Main results:

* `InlineSecrets.Span.precedes_iff` — order as order of the starts and disjointness;
* `InlineSecrets.Splicing.spliceBack_eq_substitute` — replacing from the last one to the first is
  substitution;
* `InlineSecrets.Engine.run_eq_substitute` — **so is the effect of each of the four engines.**
-/

import InlineSecrets.Engine
import Mathlib.Data.List.Forall2

set_option relaxedAutoImplicit false
set_option autoImplicit false

namespace InlineSecrets

/-! ### Slices of a text whose end was replaced -/

namespace Text

/-- Slices in front of an offset do not see what comes behind it. -/
theorem slice_take_append (t r : Text) {i j n : Nat} (hij : i ≤ j) (hjn : j ≤ n)
    (hn : n ≤ t.length) : slice (t.take n ++ r) i j = t.slice i j := by
  have hlen : (t.take n ++ r).length = n + r.length := by simp [hn]
  have hj : j ≤ (t.take n).length := by simp; omega
  rw [slice_natCast _ (by omega) (by omega), slice_natCast _ (by omega) (by omega),
    List.take_append_of_le_length hj, List.take_take, Nat.min_eq_left hjn]

/-- Replacing what lies directly in front of `r`. -/
theorem splice_take_append (t q r : Text) {i n : Nat} (hin : i ≤ n) (hn : n ≤ t.length) :
    splice (t.take n ++ r) i n q = t.take i ++ q ++ r := by
  have hlen : (t.take n).length = n := by simp [hn]
  have hi : i ≤ (t.take n).length := by omega
  rw [splice_natCast _ _ (by simp; omega) (by simp; omega), List.take_append_of_le_length hi,
    List.take_take, Nat.min_eq_left hin, List.drop_left' hlen]

/-- A text up to an offset, cut at an earlier one. -/
theorem take_append_slice (t : Text) {i j : Nat} (hij : i ≤ j) (hj : j ≤ t.length) :
    t.take i ++ t.slice i j = t.take j := by
  have h := List.take_append_drop i (t.take j)
  rw [List.take_take, Nat.min_eq_left hij] at h
  rw [slice_natCast _ (by omega) hj, h]

/-- A slice, cut at an offset. -/
theorem slice_append_slice (t : Text) {i j l : Nat} (hij : i ≤ j) (hjl : j ≤ l)
    (hl : l ≤ t.length) : t.slice i j ++ t.slice j l = t.slice i l := by
  have hi : i ≤ (t.take j).length := by simp; omega
  calc t.slice i j ++ t.slice j l = (t.take j).drop i ++ t.slice j l := by
        rw [slice_natCast t (by omega) (by omega : j ≤ t.length)]
    _ = (t.take j ++ t.slice j l).drop i := (List.drop_append_of_le_length hi).symm
    _ = (t.take l).drop i := by rw [take_append_slice t hjl hl]
    _ = t.slice i l := (slice_natCast t (by omega) hl).symm

end Text

/-! ### Spans in order -/

namespace Span

/-- The envelope lies in the text, and the payload in the envelope. -/
structure Fits (k : Span) (t : Text) : Prop where
  start_nonneg : 0 ≤ k.envelopeStart
  start_le_payload : k.envelopeStart ≤ k.payloadStart
  payload_le : k.payloadStart ≤ k.payloadEnd
  payload_le_end : k.payloadEnd ≤ k.envelopeEnd
  end_le_length : k.envelopeEnd ≤ t.length

instance (k : Span) (t : Text) : Decidable (k.Fits t) :=
  decidable_of_iff (0 ≤ k.envelopeStart ∧ k.envelopeStart ≤ k.payloadStart ∧
      k.payloadStart ≤ k.payloadEnd ∧ k.payloadEnd ≤ k.envelopeEnd ∧ k.envelopeEnd ≤ t.length)
    ⟨fun ⟨h₀, h₁, h₂, h₃, h₄⟩ => ⟨h₀, h₁, h₂, h₃, h₄⟩,
      fun ⟨h₀, h₁, h₂, h₃, h₄⟩ => ⟨h₀, h₁, h₂, h₃, h₄⟩⟩

/-- The envelope of the first span ends before, or where, that of the second one begins. -/
def Precedes (a b : Span) : Prop := a.envelopeEnd ≤ b.envelopeStart

instance (a b : Span) : Decidable (a.Precedes b) :=
  inferInstanceAs (Decidable (a.envelopeEnd ≤ b.envelopeStart))

/-- The envelopes of two spans have no character in common. -/
def Disjoint (a b : Span) : Prop := a.Precedes b ∨ b.Precedes a

instance (a b : Span) : Decidable (a.Disjoint b) :=
  inferInstanceAs (Decidable (a.Precedes b ∨ b.Precedes a))

/-- Order is order of the starts together with disjointness, where of two envelopes that begin at
the same place the first one is empty. -/
theorem precedes_iff {a b : Span} {t : Text} (ha : a.Fits t) (hb : b.Fits t) :
    a.Precedes b ↔ a.envelopeStart ≤ b.envelopeStart ∧ a.Disjoint b ∧
      (a.envelopeStart = b.envelopeStart → a.envelopeEnd = a.envelopeStart) := by
  have ha₁ := ha.start_le_payload
  have ha₂ := ha.payload_le
  have ha₃ := ha.payload_le_end
  have hb₁ := hb.start_le_payload
  have hb₂ := hb.payload_le
  have hb₃ := hb.payload_le_end
  unfold Disjoint Precedes
  omega

/-- The offsets of a span that fits are numbers of characters. -/
theorem Fits.exists_nat {k : Span} {t : Text} (h : k.Fits t) :
    ∃ a b c d : Nat, k = ⟨a, b, c, d⟩ ∧ a ≤ b ∧ b ≤ c ∧ c ≤ d ∧ d ≤ t.length := by
  obtain ⟨h₀, h₁, h₂, h₃, h₄⟩ := h
  obtain ⟨i, j, l, m⟩ := k
  dsimp only at h₀ h₁ h₂ h₃ h₄
  refine ⟨i.toNat, j.toNat, l.toNat, m.toNat, ?_, by omega, by omega, by omega, by omega⟩
  rw [Int.toNat_of_nonneg (by omega), Int.toNat_of_nonneg (by omega),
    Int.toNat_of_nonneg (by omega), Int.toNat_of_nonneg (by omega)]

end Span

namespace Splicing

variable {σ ε : Type}

/-! ### Substitution -/

/-- A text from an offset on, with replacements in place of envelopes: what lies in front of the
first envelope, what replaces it, and so on with what lies behind it. -/
def substituteFrom (t : Text) : Int → List (Span × Text) → Text
  | i, [] => t.slice i t.length
  | i, (k, r) :: rest => t.slice i k.envelopeStart ++ r ++ substituteFrom t k.envelopeEnd rest

/-- **The text with all envelopes replaced at once.** -/
def substitute (t : Text) (rs : List (Span × Text)) : Text := substituteFrom t 0 rs

/-- Each span with what replaces its envelope, from the results of the transformation. -/
def replacements (place : Placing) (t : Text) (ks : List Span) (results : List Text) :
    List (Span × Text) :=
  List.zipWith (fun k r => (k, place r (k.payload t) (k.envelope t))) ks results

/-- The results of a transformation that is called once for each payload, one after the other, up to
the first failure. -/
def transformAll (f : Transform σ ε) : List Text → σ → Except ε (List Text) × σ
  | [], s => (.ok [], s)
  | p :: ps, s =>
      match f p s with
      | (.error e, s) => (.error e, s)
      | (.ok r, s) =>
          let (rs, s) := transformAll f ps s
          ((r :: ·) <$> rs, s)

/-- A transformation that succeeds for all payloads succeeds for the first one, and then for the
others. -/
theorem transformAll_cons_eq_ok_iff {f : Transform σ ε} {p : Text} {ps rs : List Text} {s s' : σ} :
    transformAll f (p :: ps) s = (.ok rs, s') ↔
      ∃ r s₁ rs', f p s = (.ok r, s₁) ∧ transformAll f ps s₁ = (.ok rs', s') ∧ rs = r :: rs' := by
  rw [transformAll]
  rcases f p s with ⟨_ | r, s₁⟩
  · simp
  · rcases h : transformAll f ps s₁ with ⟨_ | rs', s₂⟩
    · simp [h, Functor.map, Except.map]
    · simp only [h, Functor.map, Except.map, Prod.mk.injEq, Except.ok.injEq]
      constructor
      · rintro ⟨rfl, rfl⟩
        exact ⟨r, s₁, rs', ⟨rfl, rfl⟩, ⟨h, rfl⟩⟩
      · rintro ⟨_, _, rs'', ⟨rfl, rfl⟩, h', rfl⟩
        rw [h] at h'
        cases h'
        exact ⟨rfl, rfl⟩

/-- Success for the payloads of two lists is success for those of the first, and then for those of
the second. -/
theorem transformAll_append_eq_ok_iff {f : Transform σ ε} {ps qs rs : List Text} {s s' : σ} :
    transformAll f (ps ++ qs) s = (.ok rs, s') ↔
      ∃ rs₁ s₁ rs₂, transformAll f ps s = (.ok rs₁, s₁) ∧ transformAll f qs s₁ = (.ok rs₂, s') ∧
        rs = rs₁ ++ rs₂ := by
  induction ps generalizing s rs with
  | nil =>
      constructor
      · intro h
        exact ⟨[], s, rs, rfl, h, rfl⟩
      · rintro ⟨rs₁, s₁, rs₂, h₁, h₂, rfl⟩
        cases h₁
        exact h₂
  | cons p ps ih =>
      rw [List.cons_append, transformAll_cons_eq_ok_iff]
      constructor
      · rintro ⟨r, s₁, rs', hp, h, rfl⟩
        obtain ⟨rs₁, s₂, rs₂, h₁, h₂, rfl⟩ := ih.1 h
        exact ⟨r :: rs₁, s₂, rs₂, transformAll_cons_eq_ok_iff.2 ⟨r, s₁, rs₁, hp, h₁, rfl⟩, h₂, rfl⟩
      · rintro ⟨rs₁, s₂, rs₂, h₁, h₂, rfl⟩
        obtain ⟨r, s₁, rs', hp, h, rfl⟩ := transformAll_cons_eq_ok_iff.1 h₁
        exact ⟨r, s₁, rs' ++ rs₂, hp, ih.2 ⟨rs', s₂, rs₂, h, h₂, rfl⟩, rfl⟩

/-- When a transformation fails for one of several payloads, it has succeeded for those in front of
that one. -/
theorem exists_of_transformAll_eq_error {f : Transform σ ε} {ps : List Text} {c : ε} {s s' : σ}
    (h : transformAll f ps s = (.error c, s')) :
    ∃ qs p rest rs s₁, ps = qs ++ p :: rest ∧ transformAll f qs s = (.ok rs, s₁) ∧
      f p s₁ = (.error c, s') := by
  induction ps generalizing s with
  | nil => cases h
  | cons p ps ih =>
      rw [transformAll] at h
      split at h
      · next c' s₁ hp =>
          cases h
          exact ⟨[], p, ps, [], s, rfl, rfl, hp⟩
      · next r s₁ hp =>
          rcases hps : transformAll f ps s₁ with ⟨c' | rs, s₂⟩
          · rw [hps] at h
            cases h
            obtain ⟨qs, q, rest, rs, s₃, rfl, hqs, hq⟩ := ih hps
            exact ⟨p :: qs, q, rest, r :: rs, s₃, rfl,
              transformAll_cons_eq_ok_iff.2 ⟨r, s₁, rs, hp, hqs, rfl⟩, hq⟩
          · rw [hps] at h
            cases h

/-- A transformation for which the state does not matter, where `I` holds of it: of a payload it
makes what `g` says, or it fails, and `I` goes on to hold. -/
structure Steady (f : Transform σ ε) (I : σ → Prop) (g : Text → Option Text) : Prop where
  toOption_eq : ∀ p {s}, I s → (f p s).1.toOption = g p
  keeps : ∀ p {s}, I s → I (f p s).2

namespace Steady

variable {f : Transform σ ε} {I : σ → Prop} {g : Text → Option Text}

theorem keeps_transformAll (hf : Steady f I g) (ps : List Text) {s : σ} (hs : I s) :
    I (transformAll f ps s).2 := by
  induction ps generalizing s with
  | nil => exact hs
  | cons p ps ih =>
      have hp := hf.keeps p hs
      rw [transformAll]
      split
      · next heq =>
          rw [heq] at hp
          exact hp
      · next heq =>
          rw [heq] at hp
          exact ih hp

theorem forall₂_of_transformAll_eq_ok (hf : Steady f I g) {ps rs : List Text} {s s' : σ} (hs : I s)
    (h : transformAll f ps s = (.ok rs, s')) : List.Forall₂ (fun p r => g p = some r) ps rs := by
  induction ps generalizing rs s with
  | nil =>
      cases h
      exact .nil
  | cons p ps ih =>
      obtain ⟨r, s₁, rs', hp, hps, rfl⟩ := transformAll_cons_eq_ok_iff.1 h
      have hr := hf.toOption_eq p hs
      have hs₁ := hf.keeps p hs
      rw [hp] at hr hs₁
      exact .cons hr.symm (ih hs₁ hps)

theorem exists_of_transformAll_eq_error (hf : Steady f I g) {ps : List Text} {c : ε} {s s' : σ}
    (hs : I s) (h : transformAll f ps s = (.error c, s')) : ∃ p ∈ ps, g p = none := by
  obtain ⟨qs, p, rest, rs, s₁, rfl, hqs, hp⟩ := Splicing.exists_of_transformAll_eq_error h
  have hs₁ := hf.keeps_transformAll qs hs
  rw [hqs] at hs₁
  have hnone := hf.toOption_eq p hs₁
  rw [hp] at hnone
  exact ⟨p, by simp, hnone.symm⟩

end Steady

/-! ### From the last token to the first -/

variable {f : Transform σ ε} {place : Placing}

/-- What the transformation keeps is kept. -/
theorem keeps_spliceEach {I : σ → Prop} (hf : ∀ p {s}, I s → I (f p s).2) (ks : List Span)
    (t : Text) {s : σ} (hs : I s) : I (spliceEach f place ks t s).2 := by
  induction ks generalizing t s with
  | nil => exact hs
  | cons k ks ih =>
      have hp := hf (k.payload t) hs
      rw [spliceEach]
      split
      · next heq =>
          rw [heq] at hp
          exact hp
      · next heq =>
          rw [heq] at hp
          exact ih _ hp

/-- Tokens that come later in the order are transformed in the text that the earlier ones leave. -/
theorem spliceEach_append (ks ls : List Span) (t : Text) (s : σ) :
    spliceEach f place (ks ++ ls) t s =
      match spliceEach f place ks t s with
      | (.ok t, s) => spliceEach f place ls t s
      | failed => failed := by
  induction ks generalizing t s with
  | nil => rfl
  | cons k ks ih =>
      simp only [List.cons_append, spliceEach]
      rcases f (k.payload t) s with ⟨_ | r, s₁⟩
      · rfl
      · exact ih _ _

/-- The last token that is transformed, when it lies in a text whose end was replaced: payload and
envelope are those of the text as it was. -/
theorem spliceEach_singleton (place : Placing) {k : Span} {t r : Text} {s s' : σ} (hk : k.Fits t)
    (hf : f (k.payload t) s = (.ok r, s')) (rest : Text) :
    spliceEach f place [k] (t.take k.envelopeEnd.toNat ++ rest) s =
      (.ok (t.take k.envelopeStart.toNat ++ place r (k.payload t) (k.envelope t) ++ rest), s') := by
  obtain ⟨a, b, c, d, rfl, hab, hbc, hcd, hd⟩ := hk.exists_nat
  simp only [Span.payload, Span.envelope] at hf ⊢
  simp only [spliceEach, Span.payload, Span.envelope, Span.replace, Int.toNat_natCast]
  rw [Text.slice_take_append t rest hbc hcd hd, hf,
    Text.slice_take_append t rest (by omega) (Nat.le_refl d) hd]
  simp only
  rw [Text.splice_take_append t _ rest (by omega) hd]

/-- **Replacing from the last token to the first is substitution,** here for the tokens behind an
offset; what lies in front of it is not touched. -/
theorem spliceBack_eq_substituteFrom {t : Text} {ks : List Span} {results : List Text} {s s' : σ}
    (hfits : ∀ k ∈ ks, k.Fits t) (hord : ks.Pairwise Span.Precedes)
    (hall : transformAll f (ks.map (Span.payload · t)).reverse s = (.ok results.reverse, s'))
    {i : Nat} (hi : i ≤ t.length) (hle : ∀ k ∈ ks, (i : Int) ≤ k.envelopeStart) :
    spliceBack f place ks t s =
      (.ok (t.take i ++ substituteFrom t i (replacements place t ks results)), s') := by
  -- the tokens behind the first one come earlier; they leave the text up to its end as it was
  induction ks generalizing results s' i with
  | nil =>
      cases results with
      | nil =>
          cases hall
          simp only [spliceBack, spliceEach, List.reverse_nil, replacements, List.zipWith_nil_left,
            substituteFrom]
          rw [Text.take_append_slice t hi (Nat.le_refl _), List.take_length]
      | cons r rs =>
          have := congrArg Prod.fst hall
          simp [transformAll] at this
  | cons k ks ih =>
      have hk : k.Fits t := hfits k List.mem_cons_self
      obtain ⟨hprec, hord'⟩ := List.pairwise_cons.1 hord
      rw [List.map_cons, List.reverse_cons, transformAll_append_eq_ok_iff] at hall
      obtain ⟨rs₁, s₁, rs₂, h₁, h₂, hrs⟩ := hall
      obtain ⟨r, s₂, rs', hr, h', rfl⟩ := transformAll_cons_eq_ok_iff.1 h₂
      cases h'
      obtain rfl : results = r :: rs₁.reverse := by
        rw [← List.reverse_reverse results, hrs]
        simp
      have hkr := spliceEach_singleton place hk hr
      obtain ⟨a, b, c, d, rfl, hab, hbc, hcd, hd⟩ := hk.exists_nat
      rw [← List.reverse_reverse rs₁] at h₁
      have hrest := ih (fun l hl => hfits l (List.mem_cons_of_mem _ hl)) hord' h₁ hd
        fun l hl => hprec l hl
      have hia : i ≤ a := by simpa using hle _ List.mem_cons_self
      rw [spliceBack] at hrest ⊢
      rw [List.reverse_cons, spliceEach_append, hrest]
      simp only [Int.toNat_natCast] at hkr ⊢
      rw [hkr, ← Text.take_append_slice t hia (by omega)]
      simp only [replacements, List.zipWith_cons_cons, substituteFrom, List.append_assoc]

/-- **Replacing from the last token to the first is substitution.** -/
theorem spliceBack_eq_substitute {t : Text} {ks : List Span} {results : List Text} {s s' : σ}
    (hfits : ∀ k ∈ ks, k.Fits t) (hord : ks.Pairwise Span.Precedes)
    (hall : transformAll f (ks.map (Span.payload · t)).reverse s = (.ok results.reverse, s')) :
    spliceBack f place ks t s = (.ok (substitute t (replacements place t ks results)), s') := by
  have hback : spliceBack f place ks t s = _ := spliceBack_eq_substituteFrom hfits hord hall
    (Nat.zero_le _) fun k hk => (hfits k hk).start_nonneg
  rw [hback, List.take_zero, List.nil_append]
  rfl

/-- **Splicing fails at a token that cannot be transformed** when those behind it can.  What it
fails with names that token by its payload in the text that was given. -/
theorem spliceBack_eq_error (place : Placing) {t : Text} {front back : List Span} {k : Span}
    {rs : List Text} {c : ε} {s s₁ s' : σ} (hfits : ∀ l ∈ front ++ k :: back, l.Fits t)
    (hord : (front ++ k :: back).Pairwise Span.Precedes)
    (hback : transformAll f (back.map (Span.payload · t)).reverse s = (.ok rs, s₁))
    (hk : f (k.payload t) s₁ = (.error c, s')) :
    spliceBack f place (front ++ k :: back) t s =
      (.error ⟨k.payload t, k.envelopeStart, c⟩, s') := by
  obtain ⟨hfitsk, hfitsback⟩ := List.forall_mem_cons.1 (List.forall_mem_append.1 hfits).2
  obtain ⟨a, b, m, d, rfl, hab, hbm, hmd, hd⟩ := hfitsk.exists_nat
  obtain ⟨hprec, hordback⟩ := List.pairwise_cons.1 (List.pairwise_append.1 hord).2.1
  -- the tokens behind `k` come earlier in the order, and leave the text up to its end as it was
  rw [← List.reverse_reverse rs] at hback
  have hspliced : spliceBack f place back t s = _ :=
    spliceBack_eq_substituteFrom hfitsback hordback hback hd hprec
  rw [spliceBack] at hspliced ⊢
  rw [List.reverse_append, List.reverse_cons, List.append_assoc, spliceEach_append, hspliced]
  simp only [Span.payload] at hk ⊢
  simp only [List.singleton_append, spliceEach, Span.payload]
  rw [Text.slice_take_append t _ hbm hmd hd, hk]

/-- Splicing fails where the transformation of the payloads fails first, counted from the last
token. -/
theorem exists_spliceBack_eq_error (place : Placing) {t : Text} {ks : List Span} {c : ε} {s s' : σ}
    (hfits : ∀ k ∈ ks, k.Fits t) (hord : ks.Pairwise Span.Precedes)
    (hall : transformAll f (ks.map (Span.payload · t)).reverse s = (.error c, s')) :
    ∃ front k back rs s₁, ks = front ++ k :: back ∧
      transformAll f (back.map (Span.payload · t)).reverse s = (.ok rs, s₁) ∧
      f (k.payload t) s₁ = (.error c, s') ∧
      spliceBack f place ks t s = (.error ⟨k.payload t, k.envelopeStart, c⟩, s') := by
  obtain ⟨qs, p, rest, rs, s₁, hps, hqs, hp⟩ := exists_of_transformAll_eq_error hall
  rw [← List.map_reverse] at hps
  obtain ⟨ks₁, ks₂, hks, rfl, hks₂⟩ := List.map_eq_append_iff.1 hps
  obtain ⟨k, ks₃, rfl, rfl, -⟩ := List.map_eq_cons_iff.1 hks₂
  -- the tokens behind `k` are those that come earlier in the order
  obtain rfl : ks = ks₃.reverse ++ k :: ks₁.reverse := by
    rw [← List.reverse_reverse ks, hks]
    simp
  rw [← List.reverse_reverse ks₁, List.map_reverse] at hqs
  exact ⟨ks₃.reverse, k, ks₁.reverse, rs, s₁, rfl, hqs, hp,
    spliceBack_eq_error place hfits hord hqs hp⟩

end Splicing

/-! ### Engines -/

namespace Engine

open Splicing

variable {σ ε : Type}

/-- An engine that knows what to put in place of envelopes replaces the tokens that it finds. -/
theorem run_of_placing? {e : Engine σ ε} {wrapTokens : Bool} {place : Placing}
    (hplace : e.placing? wrapTokens = some place) (t : Text) (s : σ) :
    e.run wrapTokens t s = match e.locate t with
      | .error cause => (.error (.locating e.family cause), s)
      | .ok ks => e.splice place ks t s := by
  have hwrapper : ¬(e.action = .redact ∧ e.wrapper.isNone) := by
    rintro ⟨ha, hw⟩
    rw [placing?, ha] at hplace
    simp only at hplace
    rw [hplace] at hw
    cases hw
  rw [run, if_neg hwrapper]
  cases e.locate t with
  | error cause => rfl
  | ok ks => simp only [hplace]

/-- A text without tokens stays as it is. -/
theorem run_of_nil {e : Engine σ ε} {wrapTokens : Bool} {place : Splicing.Placing} {t : Text}
    (hplace : e.placing? wrapTokens = some place) (hlocate : e.locate t = .ok []) (s : σ) :
    e.run wrapTokens t s = (.ok t, s) := by
  rw [run_of_placing? hplace, hlocate]
  rfl

/-- With one token, the state is what transforming its payload leaves, whether or not it fails. -/
theorem snd_run_of_singleton {e : Engine σ ε} {wrapTokens : Bool} {place : Splicing.Placing}
    {t : Text} {k : Span} (hplace : e.placing? wrapTokens = some place)
    (hlocate : e.locate t = .ok [k]) (s : σ) :
    (e.run wrapTokens t s).2 = (e.transform (k.payload t) s).2 := by
  rw [run_of_placing? hplace, hlocate]
  simp only [splice, spliceBack, List.reverse_singleton, spliceEach]
  rcases e.transform (k.payload t) s with ⟨_ | r, s'⟩ <;> rfl

/-- An engine that knows what to put in place of envelopes keeps what its transformation keeps. -/
theorem keeps_run_of_placing? {e : Engine σ ε} {wrapTokens : Bool} {place : Placing}
    {I : σ → Prop} (hplace : e.placing? wrapTokens = some place)
    (hkeeps : ∀ p {s}, I s → I (e.transform p s).2) (t : Text) {s : σ} (hs : I s) :
    I (e.run wrapTokens t s).2 := by
  rw [run_of_placing? hplace]
  cases e.locate t with
  | error cause => exact hs
  | ok ks =>
      have hsplice : I (spliceBack e.transform place ks t s).2 :=
        keeps_spliceEach hkeeps ks.reverse t hs
      rcases hrun : spliceBack e.transform place ks t s with ⟨_ | _, s'⟩ <;>
        rw [hrun] at hsplice <;> simpa only [splice, hrun] using hsplice

/-- The effect of an engine that knows what to put in place of envelopes. -/
theorem run_eq_of_placing? {e : Engine σ ε} {wrapTokens : Bool} {place : Placing} {t : Text}
    {ks : List Span} {results : List Text} {s s' : σ}
    (hplace : e.placing? wrapTokens = some place) (hlocate : e.locate t = .ok ks)
    (hfits : ∀ k ∈ ks, k.Fits t) (hord : ks.Pairwise Span.Precedes)
    (hall : transformAll e.transform (ks.map (Span.payload · t)).reverse s =
      (.ok results.reverse, s')) :
    e.run wrapTokens t s = (.ok (substitute t (replacements place t ks results)), s') := by
  rw [run_of_placing? hplace, hlocate]
  simp only [splice, spliceBack_eq_substitute hfits hord hall]

/-- An engine that knows what to put in place of envelopes fails at a token that cannot be
transformed, when those behind it can. -/
theorem run_eq_error_of_placing? {e : Engine σ ε} {wrapTokens : Bool} {place : Placing}
    {t : Text} {front back : List Span} {k : Span} {rs : List Text} {c : ε} {s s₁ s' : σ}
    (hplace : e.placing? wrapTokens = some place) (hlocate : e.locate t = .ok (front ++ k :: back))
    (hfits : ∀ l ∈ front ++ k :: back, l.Fits t)
    (hord : (front ++ k :: back).Pairwise Span.Precedes)
    (hback : transformAll e.transform (back.map (Span.payload · t)).reverse s = (.ok rs, s₁))
    (hk : e.transform (k.payload t) s₁ = (.error c, s')) :
    e.run wrapTokens t s =
      (.error (.transforming e.action e.family (k.payload t) k.envelopeStart c), s') := by
  rw [run_of_placing? hplace, hlocate]
  simp only [splice, spliceBack_eq_error place hfits hord hback hk]

/-- An engine that knows what to put in place of envelopes fails where the transformation of the
payloads fails first, counted from the last token. -/
theorem exists_run_eq_error_of_placing? {e : Engine σ ε} {wrapTokens : Bool} {place : Placing}
    {t : Text} {ks : List Span} {c : ε} {s s' : σ}
    (hplace : e.placing? wrapTokens = some place) (hlocate : e.locate t = .ok ks)
    (hfits : ∀ k ∈ ks, k.Fits t) (hord : ks.Pairwise Span.Precedes)
    (hall : transformAll e.transform (ks.map (Span.payload · t)).reverse s = (.error c, s')) :
    ∃ front k back rs s₁, ks = front ++ k :: back ∧
      transformAll e.transform (back.map (Span.payload · t)).reverse s = (.ok rs, s₁) ∧
      e.transform (k.payload t) s₁ = (.error c, s') ∧
      e.run wrapTokens t s =
        (.error (.transforming e.action e.family (k.payload t) k.envelopeStart c), s') := by
  obtain ⟨front, k, back, rs, s₁, rfl, hback, hk, -⟩ :=
    exists_spliceBack_eq_error bare hfits hord hall
  exact ⟨front, k, back, rs, s₁, rfl, hback, hk,
    run_eq_error_of_placing? hplace hlocate hfits hord hback hk⟩

/-- **The effect of an engine is simultaneous substitution.**  At spans that fit the text and stand
in order, where the transformation succeeds for the payloads of the text when it is called once for
each of them, from the last one to the first, the engine yields the text with all envelopes replaced
at once, and the state behind these calls.  Redacting shows the wrapper the transformed payload, the
payload and the envelope; encoding shows it the transformed payload alone; the two ways back do as
redacting when they are to wrap and have a wrapper, and else insert the transformed payload. -/
theorem run_eq_substitute (e : Engine σ ε) (wrapTokens : Bool) {t : Text} {ks : List Span}
    {results : List Text} {s s' : σ} (hlocate : e.locate t = .ok ks)
    (hfits : ∀ k ∈ ks, k.Fits t) (hord : ks.Pairwise Span.Precedes)
    (hall : transformAll e.transform (ks.map (Span.payload · t)).reverse s =
      (.ok results.reverse, s')) :
    (∀ wrap, e.action = .redact → e.wrapper = some wrap →
      e.run wrapTokens t s = (.ok (substitute t (replacements wrap t ks results)), s')) ∧
    (∀ wrap, e.action = .encode → e.wrapper = some wrap →
      e.run wrapTokens t s =
        (.ok (substitute t (replacements (fun token _ _ => wrap token [] []) t ks results)), s')) ∧
    (∀ wrap, e.action = .decode ∨ e.action = .unredact → e.wrapper = some wrap →
      wrapTokens = true →
      e.run wrapTokens t s = (.ok (substitute t (replacements wrap t ks results)), s')) ∧
    (e.action = .decode ∨ e.action = .unredact → wrapTokens = false ∨ e.wrapper = none →
      e.run wrapTokens t s = (.ok (substitute t (replacements bare t ks results)), s')) := by
  refine ⟨?_, ?_, ?_, ?_⟩
  · intro wrap ha hw
    exact run_eq_of_placing? (by simp [placing?, ha, hw]) hlocate hfits hord hall
  · intro wrap ha hw
    exact run_eq_of_placing? (by simp [placing?, ha, hw]) hlocate hfits hord hall
  · rintro wrap (ha | ha) hw rfl
    · exact run_eq_of_placing? (by simp [placing?, ha, hw]) hlocate hfits hord hall
    · exact run_eq_of_placing? (by simp [placing?, ha, hw]) hlocate hfits hord hall
  · rintro (ha | ha) (rfl | hw)
    · exact run_eq_of_placing? (by simp [placing?, ha]) hlocate hfits hord hall
    · exact run_eq_of_placing? (by simp [placing?, ha, hw]) hlocate hfits hord hall
    · exact run_eq_of_placing? (by simp [placing?, ha]) hlocate hfits hord hall
    · exact run_eq_of_placing? (by simp [placing?, ha, hw]) hlocate hfits hord hall

/-- An engine for tokens at given spans: it doubles payloads, keeps a list of those it was called
for, and has a wrapper that writes down all that it is shown. -/
def doubling (action : Action) (ks : List Span) : Engine (List Text) Unit where
  action := action
  family := []
  locate := fun _ => .ok ks
  transform := fun p s => (.ok (p ++ p), s ++ [p])
  wrapper := some fun token payload envelope => token ++ '|' :: payload ++ '|' :: envelope

/-- Three envelopes that touch each other, the one in the middle empty. -/
def touching : List Span := [⟨0, 1, 2, 3⟩, ⟨3, 3, 3, 3⟩, ⟨3, 3, 4, 4⟩]

theorem run_doubling_touching :
    (doubling .redact touching).run false "abcd".toList [] =
      (.ok "bb|b|abc||dd|d|d".toList, ["d".toList, [], "b".toList]) := by
  have hall : transformAll (doubling .redact touching).transform
      (touching.map (Span.payload · "abcd".toList)).reverse [] =
      (.ok ["bb".toList, [], "dd".toList].reverse, ["d".toList, [], "b".toList]) := rfl
  exact (run_eq_substitute (doubling .redact touching) false rfl (by decide) (by decide) hall).1
    _ rfl rfl

/-- Encoding does not show the wrapper the payload and the envelope; and where an empty envelope is
listed behind one that begins at the same place, the transformation is called for a payload which is
not one of the text. -/
theorem run_doubling_ne_substitute :
    ((∀ k ∈ [(⟨0, 1, 2, 3⟩ : Span)], k.Fits "abc".toList) ∧
      (doubling .encode [⟨0, 1, 2, 3⟩]).run false "abc".toList [] ≠
        (.ok (substitute "abc".toList [(⟨0, 1, 2, 3⟩, "bb|b|abc".toList)]), ["b".toList])) ∧
    ((∀ k ∈ [(⟨1, 1, 3, 3⟩ : Span), ⟨1, 1, 1, 1⟩], k.Fits "abcd".toList) ∧
      [(⟨1, 1, 3, 3⟩ : Span), ⟨1, 1, 1, 1⟩].Pairwise (·.envelopeStart ≤ ·.envelopeStart) ∧
      [(⟨1, 1, 3, 3⟩ : Span), ⟨1, 1, 1, 1⟩].Pairwise Span.Disjoint ∧
      ((doubling .redact [⟨1, 1, 3, 3⟩, ⟨1, 1, 1, 1⟩]).run false "abcd".toList []).2 ≠
        [[], "bc".toList]) := by
  refine ⟨⟨by decide, ?_⟩, by decide, by decide, by decide, by decide⟩
  intro h
  have htext := congrArg (fun p => p.1.toOption) h
  revert htext
  decide

end Engine

end InlineSecrets
