/-
**No key is twice in a mapping of a document.**

The entries of a mapping are put together one after the other, and where there is an equal key, that
one is kept.  So the mappings among the values of the nodes have every key once, and so have those
in the data of the document.

Main definitions:

* `InlineSecrets.Yaml.Ensures` — what is true of a value if there is one;
* `InlineSecrets.Yaml.Content.HasDistinctKeys` — a value that is no mapping with a key twice.

Main results:

* `InlineSecrets.Entries.HaveDistinctKeys.put` — setting a key makes no key come twice;
* `InlineSecrets.Yaml.Builder.ensures_work` — neither does working through a collection;
* `InlineSecrets.Yaml.Document.hasDistinctKeys_outline` — **no key is twice in a mapping of a
  document.**
-/

import InlineSecrets.Proofs.Config.Merging
import InlineSecrets.Yaml.Document

set_option relaxedAutoImplicit false
set_option autoImplicit false

namespace InlineSecrets

/-! ### Setting keys -/

namespace Entries

variable {α : Type}

/-- The keys after one was set are those before, and that one if it is new. -/
theorem key_of_mem_put {es : Entries α} {x : Scalar} {v : α} {e : Scalar × α}
    (h : e ∈ es.put x v) : e.1 = x ∨ ∃ e' ∈ es, e'.1 = e.1 := by
  induction es with
  | nil => exact .inl (congrArg Prod.fst (List.mem_singleton.1 h))
  | cons d r ih =>
      obtain ⟨k, w⟩ := d
      rw [put] at h
      split at h
      · rcases List.mem_cons.1 h with rfl | h
        · exact .inr ⟨_, List.mem_cons_self, rfl⟩
        · exact .inr ⟨e, List.mem_cons_of_mem _ h, rfl⟩
      · rcases List.mem_cons.1 h with rfl | h
        · exact .inr ⟨_, List.mem_cons_self, rfl⟩
        · rcases ih h with hx | ⟨e', he', heq⟩
          · exact .inl hx
          · exact .inr ⟨e', List.mem_cons_of_mem _ he', heq⟩

/-- Setting a key makes no key come twice. -/
theorem HaveDistinctKeys.put {es : Entries α} (h : es.HaveDistinctKeys) (x : Scalar) (v : α) :
    (es.put x v).HaveDistinctKeys := by
  induction es with
  | nil => exact List.pairwise_singleton _ _
  | cons e r ih =>
      obtain ⟨k, w⟩ := e
      obtain ⟨hk, hr⟩ := List.pairwise_cons.1 h
      rw [Entries.put]
      split
      · exact List.pairwise_cons.2 ⟨hk, hr⟩
      · next hne =>
          refine List.pairwise_cons.2 ⟨fun e he => ?_, ih hr⟩
          rcases key_of_mem_put he with hx | ⟨e', he', heq⟩
          · rw [hx]
            exact mt Scalar.isSameKey_iff.2 hne
          · rw [← heq]
            exact hk e' he'

end Entries

namespace Yaml

/-! ### What is true of a value if there is one -/

/-- Whether something is true of a value if there is one. -/
def Ensures {α : Type} (x : Except Fault α) (P : α → Prop) : Prop := ∀ a, x = .ok a → P a

variable {α β : Type} {P : α → Prop} {Q : β → Prop}

theorem ensures_ok {a : α} (h : P a) : Ensures (.ok a) P := by
  rintro _ ⟨⟩
  exact h

theorem ensures_error (f : Fault) : Ensures (.error f) P := by
  rintro _ ⟨⟩

theorem Ensures.bind {x : Except Fault α} {g : α → Except Fault β} (hx : Ensures x P)
    (hg : ∀ a, P a → Ensures (g a) Q) : Ensures (x >>= g) Q := by
  cases x with
  | error f => exact ensures_error f
  | ok a => exact hg a (hx a rfl)

theorem ensures_bind {x : Except Fault α} {g : α → Except Fault β} (hg : ∀ a, Ensures (g a) Q) :
    Ensures (x >>= g) Q :=
  Ensures.bind (fun _ _ => trivial) fun a _ => hg a

/-- What every step of a fold preserves, the fold preserves. -/
theorem ensures_foldlM {g : β → α → Except Fault β} (hg : ∀ b a, Q b → Ensures (g b a) Q)
    (l : List α) {b : β} (hb : Q b) : Ensures (l.foldlM g b) Q := by
  induction l generalizing b with
  | nil => exact ensures_ok hb
  | cons a l ih =>
      rw [List.foldlM_cons]
      exact (hg b a hb).bind fun b' hb' => ih hb'

/-! ### Values of nodes -/

/-- No key is twice in a value that is a mapping. -/
def Content.HasDistinctKeys : Content → Prop
  | .map es => Entries.HaveDistinctKeys es
  | _ => True

namespace Builder

/-- No key is twice in the values known so far. -/
def HasDistinctKeys (b : Builder) : Prop := ∀ c, some c ∈ b.contents → c.HasDistinctKeys

variable {b : Builder}

theorem HasDistinctKeys.setContent (hb : b.HasDistinctKeys) (number : Nat) {c : Content}
    (hc : c.HasDistinctKeys) : (b.setContent number c).HasDistinctKeys := by
  intro d hd
  rcases Array.mem_or_eq_of_mem_setIfInBounds hd with hd | hd
  · exact hb d hd
  · cases hd
    exact hc

/-- A collection is empty before it has been worked through. -/
theorem hasDistinctKeys_of_emptyContent? {t : Tag} {c : Content} (h : t.emptyContent? = some c) :
    c.HasDistinctKeys := by
  cases t <;> cases h <;> first | trivial | exact List.Pairwise.nil

theorem ensures_touch (hb : b.HasDistinctKeys) (number : Nat) :
    Ensures (b.touch number) HasDistinctKeys := by
  have hscalar : ∀ tag t style, Ensures (do
      return b.setContent number (.scalar (← scalarOf tag t style))) HasDistinctKeys :=
    fun tag t style => ensures_bind fun s => ensures_ok (hb.setContent number trivial)
  unfold touch
  split
  · exact ensures_ok hb
  · simp only
    split
    · next c hc => exact ensures_ok (hb.setContent number (hasDistinctKeys_of_emptyContent? hc))
    · split
      · exact ensures_error _
      · refine ensures_bind fun p => ?_
        split
        · split
          · exact ensures_error _
          · exact hscalar _ _ _
        · exact hscalar _ _ _

/-- No key is twice in entries, nor in the values known so far. -/
def EntriesHaveDistinctKeys (p : Entries Nat × Builder) : Prop :=
  p.1.HaveDistinctKeys ∧ p.2.HasDistinctKeys

theorem ensures_touchEntry (hb : b.HasDistinctKeys) {es : Entries Nat} (hes : es.HaveDistinctKeys)
    (e : Nat × Nat) : Ensures (b.touchEntry es e) EntriesHaveDistinctKeys := by
  refine (ensures_touch hb e.1).bind fun b hb => ?_
  split
  · refine (ensures_touch hb e.2).bind fun b hb => ?_
    exact ensures_ok ⟨hes.put _ _, hb⟩
  · exact ensures_error _

/-- **Working through a collection makes no key come twice.** -/
theorem ensures_work (merges : Nat) (hb : b.HasDistinctKeys) (number : Nat) :
    Ensures (b.work merges number) HasDistinctKeys := by
  unfold work
  split
  · refine (ensures_foldlM (fun b n hb => ensures_touch hb n) _ hb).bind fun b hb => ?_
    exact ensures_ok (hb.setContent _ trivial)
  · refine (ensures_foldlM (Q := fun p => p.2.HasDistinctKeys) ?_ _ hb).bind fun p hp => ?_
    · rintro ⟨pairs, b⟩ item hb
      refine ensures_bind fun e => (ensures_touch hb e.1).bind fun b hb => ?_
      exact (ensures_touch hb e.2).bind fun b hb => ensures_ok hb
    · exact ensures_ok (hp.setContent _ trivial)
  · split
    · refine ensures_bind fun nodes => ?_
      have hempty : EntriesHaveDistinctKeys ([], { b with nodes }) := ⟨List.Pairwise.nil, hb⟩
      refine (ensures_foldlM (Q := EntriesHaveDistinctKeys) ?_ _ hempty).bind fun p hp => ?_
      · rintro ⟨es, b⟩ e ⟨hes, hb⟩
        exact ensures_touchEntry hb hes e
      · refine ensures_ok ?_
        split
        · exact hp.2
        · exact hp.2.setContent _ hp.1
    · exact ensures_error _
  · exact ensures_error _

theorem ensures_workAll (merges fuel : Nat) (hb : b.HasDistinctKeys) :
    Ensures (b.workAll merges fuel) HasDistinctKeys := by
  induction fuel generalizing b with
  | zero => exact ensures_ok hb
  | succ fuel ih =>
      unfold workAll
      split
      · exact ensures_ok hb
      · refine (ensures_foldlM (fun b n hb => ensures_work merges hb n) _ ?_).bind fun b hb => ih hb
        exact hb

end Builder

/-! ### Documents -/

namespace Document

variable {d : Document}

/-- No key is twice in the values of the nodes. -/
def HasDistinctKeys (d : Document) : Prop := ∀ number, (d.content number).HasDistinctKeys

theorem ensures_ofGraph (g : Graph) : Ensures (ofGraph g) HasDistinctKeys := by
  have hnew : Builder.HasDistinctKeys
      { nodes := g.nodes, contents := Array.replicate (Array.size g.nodes) none } := by
    intro c hc
    cases (Array.mem_replicate.1 hc).2
  refine (Builder.ensures_touch hnew g.root).bind fun b hb => ?_
  refine (Builder.ensures_workAll _ _ hb).bind fun b hb => ensures_ok fun number => ?_
  unfold content
  rw [Array.getD_eq_getD_getElem?]
  cases h : (b.contents.map fun c => c.getD (.scalar .null))[number]? with
  | none => trivial
  | some c =>
      obtain ⟨o, ho, rfl⟩ := Array.mem_map.1 (Array.mem_of_getElem? h)
      cases o with
      | none => trivial
      | some c => exact hb c ho

theorem ensures_ofText (t : Text) : Ensures (ofText t) HasDistinctKeys := by
  refine ensures_bind fun o => ?_
  split
  · refine ensures_ok fun number => ?_
    cases number with
    | zero => trivial
    | succ number => trivial
  · exact ensures_ofGraph _

/-- The data of a node down to a depth. -/
theorem HasDistinctKeys.outlineFrom (hd : d.HasDistinctKeys) (depth number : Nat) :
    (d.outlineFrom depth number).HasDistinctKeys := by
  induction depth generalizing number with
  | zero =>
      rw [Document.outlineFrom]
      split
      · exact .scalar _
      · exact .list _
      · exact .list _
      · exact .map List.Pairwise.nil (List.forall_mem_nil _)
  | succ depth ih =>
      have hcontent := hd number
      rw [Document.outlineFrom]
      split
      · exact .scalar _
      · exact .list _
      · exact .list _
      · next es hes =>
          rw [hes] at hcontent
          refine .map (List.Pairwise.map _ (fun e f h => h) hcontent) fun e he => ?_
          obtain ⟨e', -, rfl⟩ := List.mem_map.1 he
          exact ih e'.2

/-- **No key is twice in a mapping of a document.** -/
theorem hasDistinctKeys_outline {t : Text} (h : ofText t = .ok d) (depth : Nat) :
    (d.outline depth).HasDistinctKeys :=
  (ensures_ofText t d h).outlineFrom depth d.root

end Document

end Yaml

end InlineSecrets
