/-
**What stands where in merged data.**

Data are looked into along paths, which lead through mappings from key to key.  When two mappings
are merged, what stands at a path is what the overriding one has there, if it has anything but a
mapping at the path or on the way to it; it is what the other one has there, if the overriding one
says nothing about the path; and where the overriding one has a mapping, the two are united.

The entries that override are taken one after the other.  That they do not get in each other's way
is because no two of them have the same key.

Main definitions:

* `InlineSecrets.Scalar.asKey` — what counts of a scalar that is a key;
* `InlineSecrets.Setting.HasDistinctKeys` — data whose mappings have every key once;
* `InlineSecrets.Setting.at?` — what stands at a path;
* `InlineSecrets.Setting.IsCutAt` — whether a path leads through or to what is no mapping;
* `InlineSecrets.Setting.IsMerged` — **what stands where in merged data.**

Main results:

* `InlineSecrets.Entries.get?_put` — what is at a key when one was set;
* `InlineSecrets.Setting.get?_merge` — what is at a key of two mappings that were merged;
* `InlineSecrets.Setting.isMerged_merge` — **merging does this.**
-/

import InlineSecrets.Config.Setting

set_option relaxedAutoImplicit false
set_option autoImplicit false

namespace InlineSecrets

/-! ### Keys -/

namespace Scalar

/-- What counts of a scalar that is a key: of a number, its value. -/
def asKey (s : Scalar) : Rat ⊕ Scalar :=
  match s.number? with
  | some x => .inl x
  | none => .inr s

theorem isSameKey_iff {a b : Scalar} : a.isSameKey b = true ↔ a.asKey = b.asKey := by
  unfold isSameKey asKey
  cases a.number? <;> cases b.number? <;> simp

/-- A text is the same key as itself only. -/
theorem isSameKey_text {a : Scalar} {t : Text} : a.isSameKey (.text t) = true ↔ a = .text t := by
  unfold isSameKey
  cases h : a.number? with
  | none => simp [number?]
  | some x =>
      have hne : a ≠ .text t := by
        rintro rfl
        cases h
      simp [number?, hne]

end Scalar

namespace Entries

variable {α : Type}

/-- The value at a key is the one at any equal key. -/
theorem get?_congr (es : Entries α) {x y : Scalar} (h : x.asKey = y.asKey) :
    get? es x = get? es y := by
  induction es with
  | nil => rfl
  | cons e r ih => simp only [get?, Scalar.isSameKey_iff, h, ih]

/-- At a text is what is at the same key. -/
theorem get?_text (es : Entries α) (t : Text) : get? es (.text t) = Assoc.get? es (.text t) := by
  induction es with
  | nil => rfl
  | cons e r ih => simp only [get?, Assoc.get?, Scalar.isSameKey_text, ih]

/-- Nothing is at a key that is the same as no key. -/
theorem get?_eq_none {es : Entries α} {x : Scalar} (h : ∀ e ∈ es, e.1.asKey ≠ x.asKey) :
    get? es x = none := by
  induction es with
  | nil => rfl
  | cons e r ih =>
      obtain ⟨k, v⟩ := e
      have hk : ¬k.isSameKey x = true := mt Scalar.isSameKey_iff.1 (h _ List.mem_cons_self)
      rw [get?, if_neg hk, ih fun e he => h e (List.mem_cons_of_mem _ he)]

/-- What is at a key is the value of an entry. -/
theorem mem_of_get? {es : Entries α} {x : Scalar} {v : α} (h : get? es x = some v) :
    ∃ k, (k, v) ∈ es := by
  induction es with
  | nil => cases h
  | cons e r ih =>
      obtain ⟨k, w⟩ := e
      rw [get?] at h
      split at h
      · cases h
        exact ⟨k, List.mem_cons_self⟩
      · obtain ⟨k, hk⟩ := ih h
        exact ⟨k, List.mem_cons_of_mem _ hk⟩

/-- **What is at a key when one was set.** -/
theorem get?_put (es : Entries α) (x y : Scalar) (v : α) :
    get? (put es x v) y = if x.asKey = y.asKey then some v else get? es y := by
  induction es with
  | nil => simp only [put, get?, Scalar.isSameKey_iff]
  | cons e r ih =>
      obtain ⟨k, w⟩ := e
      simp only [put, get?, Scalar.isSameKey_iff]
      by_cases hk : k.asKey = x.asKey
      · rw [if_pos hk, get?, hk]
        simp only [Scalar.isSameKey_iff, hk]
        split <;> rfl
      · rw [if_neg hk, get?, ih]
        by_cases hy : k.asKey = y.asKey
        · rw [if_pos (Scalar.isSameKey_iff.2 hy), if_pos hy, if_neg (fun h => hk (hy.trans h.symm))]
        · rw [if_neg (mt Scalar.isSameKey_iff.1 hy), if_neg hy]

/-- No two entries have the same key. -/
def HaveDistinctKeys (es : Entries α) : Prop := es.Pairwise fun e f => e.1.asKey ≠ f.1.asKey

end Entries

namespace Setting

/-! ### Paths -/

/-- In mappings every key is there once. -/
inductive HasDistinctKeys : Setting → Prop where
  | scalar (s : Scalar) : HasDistinctKeys (.scalar s)
  | list (items : List Setting) : HasDistinctKeys (.list items)
  | map {es : Entries Setting} (h : es.HaveDistinctKeys) (hvalues : ∀ e ∈ es, HasDistinctKeys e.2) :
      HasDistinctKeys (.map es)

/-- What is at a key of a mapping. -/
def value? (v : Setting) (k : Scalar) : Option Setting := v.entries?.bind (Entries.get? · k)

/-- What stands at a path, which leads through mappings from key to key. -/
def at? : Setting → List Scalar → Option Setting
  | v, [] => some v
  | v, k :: p => (v.value? k).bind fun w => at? w p

theorem value?_map (es : Entries Setting) (k : Scalar) :
    (Setting.map es).value? k = Entries.get? es k := rfl

/-- What stands at a path is found from what stands at any point on the way. -/
theorem at?_append (v : Setting) (p q : List Scalar) :
    v.at? (p ++ q) = (v.at? p).bind (·.at? q) := by
  induction p generalizing v with
  | nil => rfl
  | cons k p ih =>
      rw [List.cons_append, at?, at?, Option.bind_assoc]
      exact congrArg _ (funext ih)

/-- What is in such data is such data. -/
theorem HasDistinctKeys.at? {v w : Setting} (hv : v.HasDistinctKeys) {p : List Scalar}
    (h : v.at? p = some w) : w.HasDistinctKeys := by
  induction p generalizing v with
  | nil =>
      cases h
      exact hv
  | cons k p ih =>
      obtain ⟨u, hu, hw⟩ := Option.bind_eq_some_iff.1 h
      cases hv with
      | scalar | list => cases hu
      | map _ hvalues =>
          obtain ⟨l, hl⟩ := Entries.mem_of_get? hu
          exact ih (hvalues _ hl) hw

/-- Whether a path leads through or to what is no mapping. -/
def IsCutAt (v : Setting) (p : List Scalar) : Prop :=
  ∃ q w, q <+: p ∧ v.at? q = some w ∧ w.entries? = none

/-- Nothing but a mapping has anything further down. -/
theorem at?_cons_of_entries? {v : Setting} (h : v.entries? = none) (k : Scalar) (p : List Scalar) :
    v.at? (k :: p) = none := by
  rw [at?, value?, h]
  rfl

/-- What stands at the end of a path that is cut is no mapping. -/
theorem IsCutAt.entries? {v w : Setting} {p : List Scalar} (h : v.IsCutAt p)
    (hw : v.at? p = some w) : w.entries? = none := by
  obtain ⟨q, u, ⟨r, rfl⟩, hu, hentries⟩ := h
  rw [at?_append, hu, Option.bind_some] at hw
  cases r with
  | nil =>
      cases hw
      exact hentries
  | cons k r =>
      rw [at?_cons_of_entries? hentries] at hw
      cases hw

/-- A path into a mapping is cut where the rest of it is. -/
theorem isCutAt_cons {es : Entries Setting} {k : Scalar} {p : List Scalar} :
    (Setting.map es).IsCutAt (k :: p) ↔ ∃ v, Entries.get? es k = some v ∧ v.IsCutAt p := by
  constructor
  · rintro ⟨q, w, hq, hw, hentries⟩
    cases q with
    | nil =>
        cases hw
        cases hentries
    | cons l q =>
        obtain ⟨rfl, hprefix⟩ := List.cons_prefix_cons.1 hq
        obtain ⟨v, hv, hw⟩ := Option.bind_eq_some_iff.1 hw
        exact ⟨v, hv, q, w, hprefix, hw, hentries⟩
  · rintro ⟨v, hv, q, w, hq, hw, hentries⟩
    refine ⟨k :: q, w, List.cons_prefix_cons.2 ⟨rfl, hq⟩, ?_, hentries⟩
    rw [at?, value?_map, hv]
    exact hw

/-! ### Merging -/

/-- What overrides nothing stands as it is. -/
@[simp] theorem override_none (v : Setting) : override none v = v := by
  cases v <;> simp [override]

/-- What is no mapping stands as it is. -/
theorem override_of_entries? {v : Setting} (h : v.entries? = none) (base : Option Setting) :
    override base v = v := by
  cases v with
  | scalar | list => simp [override]
  | map => cases h

/-- What overrides no mapping stands as it is. -/
theorem override_of_base {base : Option Setting} (h : ∀ w, base = some w → w.entries? = none)
    (v : Setting) : override base v = v := by
  match base with
  | some (.map _) => cases h _ rfl
  | none | some (.scalar _) | some (.list _) => cases v <;> simp [override]

/-- **What is at a key of two mappings that were merged.** -/
theorem get?_merge {es : Entries Setting} (hes : es.HaveDistinctKeys) (base : Entries Setting)
    (k : Scalar) : Entries.get? (merge base es) k =
      match Entries.get? es k with
      | some v => some (override (Entries.get? base k) v)
      | none => Entries.get? base k := by
  induction es generalizing base with
  | nil => rfl
  | cons e r ih =>
      obtain ⟨l, v⟩ := e
      obtain ⟨hl, hr⟩ := List.pairwise_cons.1 hes
      rw [merge, ih hr, Entries.get?_put, Entries.get?]
      by_cases hk : l.asKey = k.asKey
      · -- no other entry has this key
        have hnone : Entries.get? r k = none :=
          Entries.get?_eq_none fun e he heq => hl e he (hk.trans heq.symm)
        rw [hnone, if_pos hk, if_pos (Scalar.isSameKey_iff.2 hk), Entries.get?_congr base hk]
      · rw [if_neg hk, if_neg (mt Scalar.isSameKey_iff.1 hk)]

/-- What is at a key of a mapping that overrides something. -/
theorem value?_override {es : Entries Setting} (hes : es.HaveDistinctKeys) (base : Option Setting)
    (k : Scalar) : (override base (.map es)).value? k =
      match Entries.get? es k with
      | some v => some (override (base.bind (·.value? k)) v)
      | none => base.bind (·.value? k) := by
  match base with
  | some (.map bs) =>
      rw [override, value?_map, get?_merge hes]
      rfl
  | none | some (.scalar _) | some (.list _) =>
      simp only [override, value?_map]
      cases Entries.get? es k <;> simp [value?, entries?]

/-- What stands at a path of data that override something: if they have something there, this
overrides what was there before. -/
theorem at?_override {v w : Setting} (hv : v.HasDistinctKeys) (base : Option Setting)
    {p : List Scalar} (h : v.at? p = some w) :
    (override base v).at? p = some (override (base.bind (·.at? p)) w) := by
  induction p generalizing v base with
  | nil =>
      cases h
      cases base <;> rfl
  | cons k p ih =>
      cases hv with
      | scalar | list => cases h
      | @map es hes hvalues =>
          obtain ⟨u, hu, hw⟩ := Option.bind_eq_some_iff.1 h
          obtain ⟨l, hl⟩ := Entries.mem_of_get? hu
          rw [value?_map] at hu
          rw [at?, value?_override hes, hu]
          exact (ih (hvalues _ hl) _ hw).trans (by simp only [Option.bind_assoc]; rfl)

/-- What stands at a path about which the overriding data say nothing: what was there before, unless
the path is cut. -/
theorem at?_override_of_eq_none {v : Setting} (hv : v.HasDistinctKeys) (base : Option Setting)
    {p : List Scalar} (h : v.at? p = none) :
    (v.IsCutAt p → (override base v).at? p = none) ∧
      (¬v.IsCutAt p → (override base v).at? p = base.bind (·.at? p)) := by
  induction p generalizing v base with
  | nil => cases h
  | cons k p ih =>
      cases hv with
      | scalar | list =>
          refine ⟨fun _ => ?_, fun hcut => absurd ⟨[], _, List.nil_prefix, rfl, rfl⟩ hcut⟩
          rw [override_of_entries? rfl, h]
      | @map es hes hvalues =>
          rw [isCutAt_cons, at?, value?_override hes]
          rw [at?, value?_map] at h
          cases hu : Entries.get? es k with
          | none =>
              refine ⟨fun hcut => ?_, fun _ => ?_⟩
              · obtain ⟨u, hu', -⟩ := hcut
                cases hu'
              · simp only [Option.bind_assoc]
                rfl
          | some u =>
              rw [hu] at h
              obtain ⟨l, hl⟩ := Entries.mem_of_get? hu
              obtain ⟨hcut, hnot⟩ := ih (hvalues _ hl) (base.bind (·.value? k)) h
              refine ⟨fun ⟨u', hu', h⟩ => ?_, fun h => ?_⟩
              · cases hu'
                exact hcut h
              · refine (hnot fun hu' => h ⟨u, rfl, hu'⟩).trans ?_
                simp only [Option.bind_assoc]
                rfl

/-- **What stands where in merged data:** what is no mapping in the overriding data stands, and so
does whatever they say nothing about; and where they have a mapping, there is one with the keys of
both. -/
structure IsMerged (base upper merged : Setting) : Prop where
  overriding : ∀ p, upper.IsCutAt p → merged.at? p = upper.at? p
  surviving : ∀ p, ¬upper.IsCutAt p → upper.at? p = none → merged.at? p = base.at? p
  united : ∀ p es, upper.at? p = some (.map es) → ∃ ms, merged.at? p = some (.map ms) ∧
    ∀ k, (Entries.get? ms k).isSome = ((Entries.get? es k).isSome || (base.at? (p ++ [k])).isSome)

/-- **Merging does this,** when no key of the overriding data is there twice. -/
theorem isMerged_merge {base upper : Entries Setting} (hupper : (map upper).HasDistinctKeys) :
    IsMerged (map base) (map upper) (map (merge base upper)) where
  overriding p hcut := by
    rw [← override]
    cases h : (map upper).at? p with
    | none => exact (at?_override_of_eq_none hupper _ h).1 hcut
    | some w => rw [at?_override hupper _ h, override_of_entries? (hcut.entries? h)]
  surviving p hcut h := by
    rw [← override]
    exact (at?_override_of_eq_none hupper _ h).2 hcut
  united p es h := by
    have hes : Entries.HaveDistinctKeys es := by
      cases hupper.at? h with
      | map hes => exact hes
    have hmerged := at?_override hupper (some (map base)) h
    obtain ⟨ms, hms⟩ : ∃ ms, override ((map base).at? p) (map es) = map ms := by
      rcases (map base).at? p with _ | _ | _ | bs <;> exact ⟨_, rfl⟩
    rw [override, Option.bind_some, hms] at hmerged
    refine ⟨ms, hmerged, fun k => ?_⟩
    have hvalue := value?_override hes ((map base).at? p) k
    rw [hms, value?_map] at hvalue
    rw [hvalue, at?_append]
    cases Entries.get? es k with
    | some v => rfl
    | none => simp [at?]

end Setting

end InlineSecrets
