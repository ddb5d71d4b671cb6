/-
**JSON values.**

The values that a vault keeps and answers with.  A mapping is a map from texts in the order of first
insertion.  What the texts are is left open: those of a vault are texts, but there are values whose
texts have halves of characters in them.

Main definitions:

* `InlineSecrets.Json` — JSON values, with `InlineSecrets.Json.induct`;
* `InlineSecrets.Json.entries?`, `InlineSecrets.Json.get?` — the entries of a mapping;
* `InlineSecrets.Json.mapTexts` — a value with other texts.
-/

import InlineSecrets.Assoc
import InlineSecrets.Number.Double
import InlineSecrets.Text.Basic

set_option relaxedAutoImplicit false
set_option autoImplicit false

namespace InlineSecrets

/-- JSON values with texts of some kind. -/
inductive Json (τ : Type := Text) where
  | null
  | bool (b : Bool)
  | int (i : Int)
  | float (x : Double)
  | text (t : τ)
  | list (items : List (Json τ))
  | map (entries : List (τ × Json τ))
  deriving Repr

namespace Json

instance : Inhabited Json := ⟨null⟩

/-- **Induction over values:** what holds of a value as soon as it holds of all its items or entries
holds of all values. -/
@[elab_as_elim, induction_eliminator]
theorem induct {τ : Type} {P : Json τ → Prop} (null : P .null) (bool : ∀ b, P (.bool b))
    (int : ∀ i, P (.int i)) (float : ∀ x, P (.float x)) (text : ∀ t, P (.text t))
    (list : ∀ items, (∀ j ∈ items, P j) → P (.list items))
    (map : ∀ es, (∀ e ∈ es, P e.2) → P (.map es)) (j : Json τ) : P j :=
  @Json.rec τ P (fun items => ∀ j ∈ items, P j) (fun es => ∀ e ∈ es, P e.2) (fun e => P e.2)
    null bool int float text list map nofun (fun _ _ hj hs => List.forall_mem_cons.2 ⟨hj, hs⟩)
    nofun (fun _ _ he hs => List.forall_mem_cons.2 ⟨he, hs⟩) (fun _ _ hj => hj) j

/-! ### Entries -/

/-- The entries of a mapping; nothing else has entries. -/
def entries? : Json → Option (Assoc Text Json)
  | map es => some es
  | _ => none

/-- The value at a key of a mapping. -/
def get? (j : Json) (key : Text) : Option Json := j.entries?.bind fun es => Assoc.get? es key

/-- Whether a value is null. -/
def isNull : Json → Bool
  | null => true
  | _ => false

/-- The value, unless it is null. -/
def nonNull? : Json → Option Json
  | null => none
  | j => some j

/-! ### Other texts -/

section

variable {τ τ' : Type} (f : τ → τ')

mutual

/-- The value with `f t` in the place of each text `t`. -/
def mapTexts : Json τ → Json τ'
  | null => null
  | bool b => bool b
  | int i => int i
  | float x => float x
  | text t => text (f t)
  | list items => list (mapTextsItems items)
  | map es => map (mapTextsEntries es)

/-- Some values with other texts. -/
def mapTextsItems : List (Json τ) → List (Json τ')
  | [] => []
  | j :: r => mapTexts j :: mapTextsItems r

/-- Some entries with other texts. -/
def mapTextsEntries : List (τ × Json τ) → List (τ' × Json τ')
  | [] => []
  | (k, j) :: r => (f k, mapTexts j) :: mapTextsEntries r

end

theorem mapTexts_list (items : List (Json τ)) :
    mapTexts f (list items) = list (items.map (mapTexts f)) := by
  have heq : ∀ items : List (Json τ), mapTextsItems f items = items.map (mapTexts f) := by
    intro items
    induction items with
    | nil => rfl
    | cons j items ih => rw [mapTextsItems, ih, List.map_cons]
  rw [mapTexts, heq]

theorem mapTexts_map (es : List (τ × Json τ)) :
    mapTexts f (map es) = map (es.map fun e => (f e.1, mapTexts f e.2)) := by
  have heq : ∀ es : List (τ × Json τ),
      mapTextsEntries f es = es.map fun e => (f e.1, mapTexts f e.2) := by
    intro es
    induction es with
    | nil => rfl
    | cons e es ih => rw [mapTextsEntries, ih, List.map_cons]
  rw [mapTexts, heq]

end

end Json

end InlineSecrets
