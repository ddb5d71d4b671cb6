/-
**Maps and runs of characters.**

Setting a key that is not there appends an entry.  So a map that is made of entries for different
keys has just these, in their order, and what is found at a key is the value of the one entry for
it.  A run of characters of a kind is read up to the first character of another kind.

Main results:

* `InlineSecrets.Assoc.eq_of_mem_of_nodup` — there is one entry for a key;
* `InlineSecrets.Assoc.ofEntries_of_nodup` — **entries for different keys make a map as they are;**
* `InlineSecrets.Assoc.mem_of_get?`, `InlineSecrets.Assoc.get?_eq_none_iff` — what is found at a
  key;
* `InlineSecrets.Text.span_append` — a run ends where it was ended.
-/

import InlineSecrets.Assoc
import InlineSecrets.Text.Basic
import Mathlib.Data.List.Nodup
import Mathlib.Data.List.TakeWhile

set_option relaxedAutoImplicit false
set_option autoImplicit false

namespace InlineSecrets

/-! ### Maps in which no key is repeated -/

namespace Assoc

variable {κ α : Type}

/-- In a map without repeated keys there is one entry for a key. -/
theorem eq_of_mem_of_nodup {es : Assoc κ α} (h : es.keys.Nodup) {k : κ} {v v' : α}
    (hv : (k, v) ∈ es) (hv' : (k, v') ∈ es) : v = v' :=
  congrArg Prod.snd (List.inj_on_of_nodup_map h hv hv' rfl)

variable [DecidableEq κ]

theorem set_of_not_mem {m : Assoc κ α} {x : κ} (h : x ∉ m.keys) (v : α) :
    m.set x v = m ++ [(x, v)] := by
  induction m with
  | nil => rfl
  | cons e r ih =>
      obtain ⟨k, w⟩ := e
      obtain ⟨hk, hr⟩ := not_or.1 (mt List.mem_cons.2 h)
      rw [set, if_neg (Ne.symm hk), ih hr]
      rfl

/-- Entries for different keys, none of them there, are appended. -/
theorem update_of_nodup {m es : Assoc κ α} (h : (m ++ es).keys.Nodup) : m.update es = m ++ es := by
  induction es generalizing m with
  | nil => exact (List.append_nil m).symm
  | cons e es ih =>
      have hnew : e.1 ∉ m.keys := by
        rw [keys, List.map_append, List.map_cons, List.nodup_append] at h
        exact fun hmem => h.2.2 _ hmem _ List.mem_cons_self rfl
      rw [update, List.foldl_cons, set_of_not_mem hnew, ← update, ih, List.append_assoc]
      · rfl
      · rwa [List.append_assoc]

theorem ofEntries_of_nodup {es : Assoc κ α} (h : es.keys.Nodup) : ofEntries es = es :=
  update_of_nodup h

/-- What is found at a key is the value of an entry. -/
theorem mem_of_get? {es : Assoc κ α} {k : κ} {v : α} (h : get? es k = some v) : (k, v) ∈ es := by
  induction es with
  | nil => cases h
  | cons e es ih =>
      obtain ⟨k', v'⟩ := e
      rw [get?_cons] at h
      split at h
      · next heq =>
          subst heq
          cases h
          exact List.mem_cons_self
      · exact List.mem_cons_of_mem _ (ih h)

/-- Nothing is found at a key that no entry has. -/
theorem get?_eq_none_iff {es : Assoc κ α} {k : κ} : get? es k = none ↔ k ∉ es.keys := by
  induction es with
  | nil => simp [keys]
  | cons e es ih =>
      obtain ⟨k', v'⟩ := e
      rw [get?_cons]
      split
      · next heq => simp [keys, heq]
      · next hne => simpa [keys, Ne.symm hne] using ih

end Assoc

/-! ### Texts -/

namespace Text

/-- What holds of the first characters one by one holds of all characters of ASCII. -/
theorem forall_ascii {P : Char → Prop} (h : ∀ n < 0x80, P (Char.ofNat n)) (c : Char)
    (hc : c.toNat < 0x80) : P c := by
  have hc := h c.toNat hc
  rwa [Char.ofNat_toNat] at hc

/-- **A run of characters of one kind ends where no more of them follow.** -/
theorem span_append {p : Char → Bool} {t r : Text} (ht : ∀ c ∈ t, p c = true)
    (hr : ∀ c ∈ r.head?, p c = false) :
    (t ++ r).takeWhile p = t ∧ (t ++ r).dropWhile p = r := by
  rw [List.takeWhile_append_of_pos ht, List.dropWhile_append_of_pos ht]
  cases r with
  | nil => exact ⟨List.append_nil _, rfl⟩
  | cons c r =>
      have hc : ¬ p c = true := Bool.not_eq_true _ ▸ hr c rfl
      rw [List.takeWhile_cons_of_neg hc, List.dropWhile_cons_of_neg hc, List.append_nil]
      exact ⟨rfl, rfl⟩

end Text

end InlineSecrets
