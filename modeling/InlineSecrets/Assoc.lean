/-
**Maps in the order of first insertion.**

A map is the list of its entries.  Setting a key that is there changes its value in place; a new key
comes last.

Main definitions:

* `InlineSecrets.Assoc` — such maps;
* `InlineSecrets.Assoc.get?`, `InlineSecrets.Assoc.set`, `InlineSecrets.Assoc.erase` — access by
  key;
* `InlineSecrets.Assoc.update` — setting all entries of another map.

Main results:

* `InlineSecrets.Assoc.get?_set_self`, `InlineSecrets.Assoc.get?_set_of_ne` — **setting one key
  changes that key only.**
-/

set_option relaxedAutoImplicit false
set_option autoImplicit false

namespace InlineSecrets

/-- Maps from `κ` to `α` in the order of first insertion. -/
abbrev Assoc (κ α : Type) := List (κ × α)

namespace Assoc

variable {κ α : Type} [DecidableEq κ]

/-- The value at a key. -/
def get? : Assoc κ α → κ → Option α
  | [], _ => none
  | (k, v) :: r, x => if k = x then some v else get? r x

/-- The map with `v` at the key `x`. -/
def set : Assoc κ α → κ → α → Assoc κ α
  | [], x, v => [(x, v)]
  | (k, w) :: r, x, v => if k = x then (k, v) :: r else (k, w) :: set r x v

/-- The map without the key `x`. -/
def erase (m : Assoc κ α) (x : κ) : Assoc κ α := m.filter fun e => e.1 ≠ x

/-- The map with all entries of another map set, in their order. -/
def update (m other : Assoc κ α) : Assoc κ α := other.foldl (fun m e => m.set e.1 e.2) m

/-- The map with the given entries, set one after the other. -/
def ofEntries (es : List (κ × α)) : Assoc κ α := update [] es

/-- The keys, in order. -/
def keys (m : Assoc κ α) : List κ := m.map Prod.fst

@[simp] theorem get?_nil (x : κ) : get? ([] : Assoc κ α) x = none := rfl

theorem get?_cons (k : κ) (v : α) (r : Assoc κ α) (x : κ) :
    get? ((k, v) :: r) x = if k = x then some v else get? r x := rfl

/-- A key that was set has the value it was set to. -/
@[simp] theorem get?_set_self (m : Assoc κ α) (x : κ) (v : α) : (m.set x v).get? x = some v := by
  induction m with
  | nil => simp [set, get?]
  | cons e r ih =>
      obtain ⟨k, w⟩ := e
      by_cases h : k = x <;> simp [set, get?, h, ih]

/-- Setting one key leaves the others as they are. -/
theorem get?_set_of_ne (m : Assoc κ α) {x y : κ} (v : α) (h : x ≠ y) :
    (m.set x v).get? y = m.get? y := by
  induction m with
  | nil => simp [set, get?, h]
  | cons e r ih =>
      obtain ⟨k, w⟩ := e
      by_cases hk : k = x
      · subst hk; simp [set, get?, h]
      · rw [set, if_neg hk, get?_cons, get?_cons, ih]

theorem get?_set (m : Assoc κ α) (x y : κ) (v : α) :
    (m.set x v).get? y = if x = y then some v else m.get? y := by
  by_cases h : x = y
  · subst h; simp
  · simp [h, get?_set_of_ne]

/-- The keys after one was set: it comes last if it is new. -/
theorem keys_set (m : Assoc κ α) (x : κ) (v : α) :
    (m.set x v).keys = if x ∈ m.keys then m.keys else m.keys ++ [x] := by
  induction m with
  | nil => simp [set, keys]
  | cons e r ih =>
      obtain ⟨k, w⟩ := e
      by_cases h : k = x
      · simp [set, keys, h]
      · have hx : x ≠ k := fun e => h e.symm
        simp only [keys] at ih
        by_cases hm : x ∈ r.map Prod.fst <;> simp_all [set, keys]

end Assoc

end InlineSecrets
