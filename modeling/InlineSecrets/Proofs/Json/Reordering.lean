/-
**Values up to the order of entries.**

A mapping does not become another one when its entries are put in another order, at whatever depth
it stands.  Of all values that differ like that one has the entries of every mapping in the order of
their keys.  Canonical texts are written from that one: so they do not show the order that there
was.

Main definitions:

* `InlineSecrets.Json.Proper` — values in which no mapping has a key twice;
* `InlineSecrets.Json.Reordered` — **values that differ in the order of entries only;**
* `InlineSecrets.Json.arranged` — the value with all entries in the order of their keys;
* `InlineSecrets.Json.write` — the text of a value, in the order that it has.

Main results:

* `InlineSecrets.Assoc.sorted_eq_sorted_iff` — entries in the order of their keys;
* `InlineSecrets.Json.arranged_eq_iff` — values are arranged alike when they differ in order only;
* `InlineSecrets.Json.reordered_arranged` — so they differ from the arranged one;
* `InlineSecrets.Json.canonical_eq_write` — **a canonical text is that of the arranged value.**
-/

import InlineSecrets.Json.Canonical
import InlineSecrets.Proofs.Basic
import Mathlib.Data.List.Sort

set_option relaxedAutoImplicit false
set_option autoImplicit false

namespace InlineSecrets

/-! ### The order of keys -/

namespace Codes

theorem le_total (s t : Codes) : le s t = true ∨ le t s = true := by
  induction s generalizing t with
  | nil => exact .inl rfl
  | cons a s ih =>
      cases t with
      | nil => exact .inr rfl
      | cons b t =>
          rw [le, le]
          rcases lt_trichotomy a b with h | rfl | h
          · simp [h.ne, h]
          · simpa using ih t
          · simp [h.ne, h.ne', h]

theorem le_trans {s t u : Codes} (h : le s t = true) (h' : le t u = true) : le s u = true := by
  induction s generalizing t u with
  | nil => rfl
  | cons a s ih =>
      cases t with
      | nil => cases h
      | cons b t =>
          cases u with
          | nil => cases h'
          | cons c u =>
              rw [le] at h h' ⊢
              split at h
              · next hab =>
                  subst hab
                  split at h'
                  · next hac =>
                      subst hac
                      simpa using ih h h'
                  · next hac => simpa [hac] using h'
              · next hab =>
                  have hab := of_decide_eq_true h
                  split at h'
                  · next hbc =>
                      subst hbc
                      simpa [hab.ne] using hab
                  · have hac := hab.trans (of_decide_eq_true h')
                    simpa [hac.ne] using hac

theorem le_antisymm {s t : Codes} (h : le s t = true) (h' : le t s = true) : s = t := by
  induction s generalizing t with
  | nil =>
      cases t with
      | nil => rfl
      | cons b t => cases h'
  | cons a s ih =>
      cases t with
      | nil => cases h
      | cons b t =>
          rw [le] at h h'
          split at h
          · next hab =>
              subst hab
              rw [ih h (by simpa using h')]
          · next hab =>
              rw [if_neg (Ne.symm hab)] at h'
              exact absurd (of_decide_eq_true h) (lt_asymm (of_decide_eq_true h'))

end Codes

namespace Text

/-- The order by code points is linear. -/
theorem le_total (s t : Text) : le s t = true ∨ le t s = true := Codes.le_total _ _

theorem le_trans {s t u : Text} (h : le s t = true) (h' : le t u = true) : le s u = true :=
  Codes.le_trans h h'

theorem le_antisymm {s t : Text} (h : le s t = true) (h' : le t s = true) : s = t :=
  Codes.ofText_injective (Codes.le_antisymm h h')

end Text

namespace Assoc

variable {κ α β : Type}

/-- The order of entries by their keys. -/
def KeyLe (le : κ → κ → Bool) (e d : κ × α) : Prop := le e.1 d.1 = true

instance (le : κ → κ → Bool) : DecidableRel (KeyLe (α := α) le) := fun e d =>
  inferInstanceAs (Decidable (le e.1 d.1 = true))

instance : Std.Total (KeyLe (α := α) Text.le) :=
  ⟨fun e d => Text.le_total e.1 d.1⟩

instance : IsTrans (Text × α) (KeyLe Text.le) :=
  ⟨fun _ _ _ h h' => Text.le_trans h h'⟩

/-- Entries are sorted by insertion. -/
theorem sortedBy_eq_insertionSort (le : κ → κ → Bool) (es : Assoc κ α) :
    sortedBy le es = es.insertionSort (KeyLe le) := by
  have hinsert : ∀ (e : κ × α) (es : Assoc κ α),
      insertSorted le e es = es.orderedInsert (KeyLe le) e := by
    intro e es
    induction es with
    | nil => rfl
    | cons d es ih =>
        rw [insertSorted, List.orderedInsert_cons, ih]
        rfl
  rw [sortedBy, funext₂ hinsert]
  rfl

theorem perm_sortedBy (le : κ → κ → Bool) (es : Assoc κ α) : (sortedBy le es).Perm es := by
  rw [sortedBy_eq_insertionSort]
  exact List.perm_insertionSort _ _

theorem perm_sorted (es : Assoc Text α) : (sorted es).Perm es := perm_sortedBy Text.le es

/-- What becomes of the values does not matter for the order. -/
theorem sorted_map (f : α → β) (es : Assoc Text α) :
    sorted (es.map fun e => (e.1, f e.2)) = (sorted es).map fun e => (e.1, f e.2) :=
  sortedBy_map (f := id) f (fun _ _ => rfl) es

/-- **Maps without repeated keys are sorted alike exactly when they have the same entries.** -/
theorem sorted_eq_sorted_iff {es es' : Assoc Text α} (h : es.keys.Nodup) :
    sorted es = sorted es' ↔ es.Perm es' := by
  constructor
  · intro heq
    exact (perm_sorted es).symm.trans (heq ▸ perm_sorted es')
  · intro hperm
    rw [sorted, sorted, sortedBy_eq_insertionSort, sortedBy_eq_insertionSort]
    have hperm' : (es.insertionSort (KeyLe Text.le)).Perm (es'.insertionSort (KeyLe Text.le)) :=
      (List.perm_insertionSort _ _).trans (hperm.trans (List.perm_insertionSort _ _).symm)
    refine hperm'.eq_of_pairwise ?_ (List.pairwise_insertionSort (KeyLe Text.le) es)
      (List.pairwise_insertionSort (KeyLe Text.le) es')
    rintro ⟨k, v⟩ ⟨k', v'⟩ hv hv' hle hle'
    obtain rfl : k = k' := Text.le_antisymm hle hle'
    have hmem := (List.mem_insertionSort (KeyLe Text.le)).1 hv
    have hmem' := hperm.mem_iff.2 ((List.mem_insertionSort (KeyLe Text.le)).1 hv')
    rw [eq_of_mem_of_nodup h hmem hmem']

end Assoc

namespace Json

/-! ### The same values in another order -/

/-- Values in which no mapping has a key twice. -/
inductive Proper {τ : Type} : Json τ → Prop where
  | null : Proper .null
  | bool (b : Bool) : Proper (.bool b)
  | int (i : Int) : Proper (.int i)
  | float (x : Double) : Proper (.float x)
  | text (t : τ) : Proper (.text t)
  | list {items : List (Json τ)} (h : ∀ j ∈ items, Proper j) : Proper (.list items)
  | map {es : Assoc τ (Json τ)} (hkeys : es.keys.Nodup) (h : ∀ e ∈ es, Proper e.2) :
      Proper (.map es)

/-- **Values that differ in the order of entries only,** at any depth: the items of lists stand in
the same order, and mappings have the same keys in any order. -/
inductive Reordered {τ : Type} : Json τ → Json τ → Prop where
  | null : Reordered .null .null
  | bool (b : Bool) : Reordered (.bool b) (.bool b)
  | int (i : Int) : Reordered (.int i) (.int i)
  | float (x : Double) : Reordered (.float x) (.float x)
  | text (t : τ) : Reordered (.text t) (.text t)
  | list {items items' : List (Json τ)} (hlength : items.length = items'.length)
      (h : ∀ (i : Nat) (j j' : Json τ), items[i]? = some j → items'[i]? = some j' →
        Reordered j j') :
      Reordered (.list items) (.list items')
  | map {es es' : Assoc τ (Json τ)} (hkeys : es.keys.Perm es'.keys)
      (h : ∀ e ∈ es, ∀ e' ∈ es', e.1 = e'.1 → Reordered e.2 e'.2) :
      Reordered (.map es) (.map es')

variable {j j' : Json} {items items' : List Json} {es es' : Assoc Text Json}

/-- The order of entries does not repeat a key. -/
theorem Reordered.proper (h : j.Reordered j') (hj : j.Proper) : j'.Proper := by
  induction h with
  | null | bool | int | float | text => exact hj
  | @list items items' hlength _ ih =>
      cases hj with
      | list hitems =>
          refine .list fun j' hj' => ?_
          obtain ⟨i, hi⟩ := List.mem_iff_getElem?.1 hj'
          have hlt : i < items.length := hlength ▸ (List.getElem?_eq_some_iff.1 hi).1
          have hget := List.getElem?_eq_getElem hlt
          exact ih i _ _ hget hi (hitems _ (List.getElem_mem hlt))
  | @map es es' hkeys _ ih =>
      cases hj with
      | map hnodup hes =>
          refine .map (hkeys.nodup_iff.1 hnodup) fun e' he' => ?_
          obtain ⟨e, he, hkey⟩ := List.mem_map.1 (hkeys.mem_iff.2 (List.mem_map_of_mem he'))
          exact ih e he e' he' hkey (hes e he)

/-! ### Arranged values -/

mutual

/-- **The value with the entries of all mappings in the order of their keys.** -/
def arranged : Json → Json
  | list items => list (arrangedItems items)
  | map es => map (Assoc.sorted (arrangedEntries es))
  | j => j

/-- Some values, arranged. -/
def arrangedItems : List Json → List Json
  | [] => []
  | j :: r => arranged j :: arrangedItems r

/-- Some entries with arranged values. -/
def arrangedEntries : List (Text × Json) → List (Text × Json)
  | [] => []
  | (k, j) :: r => (k, arranged j) :: arrangedEntries r

end

theorem arrangedItems_eq (items : List Json) : arrangedItems items = items.map arranged := by
  induction items with
  | nil => rfl
  | cons j items ih => rw [arrangedItems, ih, List.map_cons]

theorem arrangedEntries_eq (es : Assoc Text Json) :
    arrangedEntries es = es.map fun e => (e.1, arranged e.2) := by
  induction es with
  | nil => rfl
  | cons e es ih => rw [arrangedEntries, ih, List.map_cons]

theorem arranged_list (items : List Json) : (list items).arranged = list (items.map arranged) := by
  rw [arranged, arrangedItems_eq]

/-- The entries of an arranged mapping. -/
theorem arranged_map (es : Assoc Text Json) :
    (map es).arranged = map ((Assoc.sorted es).map fun e => (e.1, arranged e.2)) := by
  rw [arranged, arrangedEntries_eq, Assoc.sorted_map]

theorem keys_arrangedEntries (es : Assoc Text Json) :
    Assoc.keys (arrangedEntries es) = es.keys := by
  rw [arrangedEntries_eq, Assoc.keys, List.map_map]
  rfl

theorem mem_arrangedEntries {k : Text} :
    (k, j) ∈ arrangedEntries es ↔ ∃ v, (k, v) ∈ es ∧ v.arranged = j := by
  rw [arrangedEntries_eq]
  simp

/-- **Values that differ in order only are arranged alike.** -/
theorem Reordered.arranged_eq (h : j.Reordered j') (hj : j.Proper) : j.arranged = j'.arranged := by
  induction h with
  | null | bool | int | float | text => rfl
  | @list items items' hlength _ ih =>
      cases hj with
      | list hitems =>
          rw [arranged_list, arranged_list]
          refine congrArg Json.list (List.ext_getElem? fun i => ?_)
          rw [List.getElem?_map, List.getElem?_map]
          rcases Nat.lt_or_ge i items.length with hlt | hge
          · have hget := List.getElem?_eq_getElem hlt
            have hget' := List.getElem?_eq_getElem (hlength ▸ hlt)
            rw [hget, hget', Option.map_some, Option.map_some,
              ih i _ _ hget hget' (hitems _ (List.getElem_mem hlt))]
          · rw [List.getElem?_eq_none hge, List.getElem?_eq_none (hlength ▸ hge)]
  | @map es es' hkeys _ ih =>
      cases hj with
      | map hnodup hes =>
          have hnodup' := hkeys.nodup_iff.1 hnodup
          rw [← keys_arrangedEntries] at hnodup hnodup'
          rw [arranged, arranged]
          refine congrArg Json.map ((Assoc.sorted_eq_sorted_iff hnodup).2 ?_)
          rw [List.perm_ext_iff_of_nodup hnodup.of_map hnodup'.of_map]
          rintro ⟨k, v⟩
          rw [mem_arrangedEntries, mem_arrangedEntries]
          constructor
          · rintro ⟨w, hw, rfl⟩
            obtain ⟨⟨_, w'⟩, hw', rfl⟩ := List.mem_map.1 (hkeys.mem_iff.1 (List.mem_map_of_mem hw))
            exact ⟨w', hw', (ih _ hw _ hw' rfl (hes _ hw)).symm⟩
          · rintro ⟨w', hw', rfl⟩
            obtain ⟨⟨_, w⟩, hw, rfl⟩ := List.mem_map.1 (hkeys.mem_iff.2 (List.mem_map_of_mem hw'))
            exact ⟨w, hw, ih _ hw _ hw' rfl (hes _ hw)⟩

/-- **Values that are arranged alike differ in order only.** -/
theorem reordered_of_arranged_eq (hj : j.Proper) (hj' : j'.Proper)
    (h : j.arranged = j'.arranged) : j.Reordered j' := by
  induction j generalizing j' with
  | null | bool | int | float | text =>
      cases j' <;> cases h
      constructor
  | list items ih =>
      cases hj with
      | list hitems =>
          cases hj' with
          | list hitems' =>
              rw [arranged_list, arranged_list, Json.list.injEq] at h
              have hlength := congrArg List.length h
              rw [List.length_map, List.length_map] at hlength
              refine .list hlength fun i j j' hi hi' => ?_
              have hmem := List.mem_of_getElem? hi
              refine ih j hmem (hitems j hmem) (hitems' j' (List.mem_of_getElem? hi')) ?_
              have hget := congrArg (·[i]?) h
              simpa [hi, hi'] using hget
          | _ => cases h
  | map es ih =>
      cases hj with
      | map hnodup hes =>
          cases hj' with
          | @map es' hnodup' hes' =>
              rw [arranged, arranged, Json.map.injEq] at h
              rw [← keys_arrangedEntries] at hnodup
              have hperm := (Assoc.sorted_eq_sorted_iff hnodup).1 h
              have hkeys : (Assoc.keys es).Perm es'.keys := by
                rw [← keys_arrangedEntries es, ← keys_arrangedEntries es']
                exact hperm.map _
              refine .map hkeys ?_
              rintro ⟨k, v⟩ hv ⟨_, v'⟩ hv' rfl
              obtain ⟨w, hw, hwv⟩ :=
                mem_arrangedEntries.1 (hperm.mem_iff.1 (mem_arrangedEntries.2 ⟨v, hv, rfl⟩))
              obtain rfl := Assoc.eq_of_mem_of_nodup hnodup' hv' hw
              exact ih _ hv (hes _ hv) (hes' _ hv') hwv.symm
          | _ => cases h

/-- **Values are arranged alike exactly when they differ in order only.** -/
theorem arranged_eq_iff (hj : j.Proper) (hj' : j'.Proper) :
    j.arranged = j'.arranged ↔ j.Reordered j' :=
  ⟨reordered_of_arranged_eq hj hj', fun h => h.arranged_eq hj⟩

/-- **An arranged value differs from the value in order only.** -/
theorem reordered_arranged (hj : j.Proper) : j.Reordered j.arranged := by
  induction j with
  | null | bool | int | float | text => constructor
  | list items ih =>
      cases hj with
      | list hitems =>
          rw [arranged_list]
          refine .list (List.length_map _).symm fun i j j' hi hi' => ?_
          have hmem := List.mem_of_getElem? hi
          rw [List.getElem?_map, hi] at hi'
          cases hi'
          exact ih j hmem (hitems j hmem)
  | map es ih =>
      cases hj with
      | map hnodup hes =>
          have hperm := Assoc.perm_sorted (arrangedEntries es)
          rw [arranged]
          refine .map ?_ ?_
          · rw [← keys_arrangedEntries]
            exact (hperm.map Prod.fst).symm
          · rintro ⟨k, v⟩ hv ⟨_, v'⟩ hv' rfl
            obtain ⟨w, hw, rfl⟩ := mem_arrangedEntries.1 (hperm.mem_iff.1 hv')
            obtain rfl := Assoc.eq_of_mem_of_nodup hnodup hv hw
            exact ih _ hv (hes _ hv)

/-! ### Writing -/

mutual

/-- **The text of a value,** with the entries of mappings in the order that they have. -/
def write : Json → Text
  | list items => '[' :: Text.join [','] (writeItems items) ++ [']']
  | map es => '\x7B' :: Text.join [','] (writeEntries es) ++ ['\x7D']
  | j => canonical j

/-- The texts of some values. -/
def writeItems : List Json → List Text
  | [] => []
  | j :: r => write j :: writeItems r

/-- The texts of some entries. -/
def writeEntries : List (Text × Json) → List Text
  | [] => []
  | (k, j) :: r => (quote k ++ ':' :: write j) :: writeEntries r

end

theorem writeItems_eq (items : List Json) : writeItems items = items.map write := by
  induction items with
  | nil => rfl
  | cons j items ih => rw [writeItems, ih, List.map_cons]

theorem writeEntries_eq (es : Assoc Text Json) :
    writeEntries es = es.map fun e => quote e.1 ++ ':' :: write e.2 := by
  induction es with
  | nil => rfl
  | cons e es ih => rw [writeEntries, ih, List.map_cons]

/-- **A canonical text is that of the arranged value.** -/
theorem canonical_eq_write (j : Json) : j.canonical = j.arranged.write := by
  induction j with
  | null | bool | int | float | text => rfl
  | list items ih =>
      rw [canonical, canonicalWith_list, arranged_list, write, writeItems_eq, List.map_map,
        ← canonical, List.map_congr_left ih]
      rfl
  | map es ih =>
      have hsorted : ∀ e ∈ Assoc.sorted es, e.2.canonical = e.2.arranged.write :=
        fun e he => ih e ((Assoc.perm_sorted es).mem_iff.1 he)
      rw [canonical, canonicalWith_map, ← canonical, arranged_map, write, writeEntries_eq,
        List.map_map]
      refine congrArg (fun ts => '\x7B' :: Text.join [','] ts ++ ['\x7D']) ?_
      refine List.map_congr_left fun e he => ?_
      simp only [Function.comp_apply, hsorted e he]

end Json

end InlineSecrets
