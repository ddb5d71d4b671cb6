/-
**Configuration data.**

What a configuration says, before it is checked: scalars, lists, and mappings from scalars in the
order of first insertion.  Two mappings are merged key by key; where both have a mapping, the two
are merged in turn, and anywhere else the overriding value stands.

Main definitions:

* `InlineSecrets.Scalar`, `InlineSecrets.Setting` — configuration data;
* `InlineSecrets.Entries.get?`, `InlineSecrets.Entries.put` — access by key, where equal numbers are
  the same key;
* `InlineSecrets.Setting.merge` — merging two mappings;
* `InlineSecrets.Json.toSetting` — JSON values as configuration data.
-/

import InlineSecrets.Bytes
import InlineSecrets.Json.Basic

set_option relaxedAutoImplicit false
set_option autoImplicit false

namespace InlineSecrets

/-- Single values. -/
inductive Scalar where
  | null
  | bool (b : Bool)
  | int (i : Int)
  | float (x : Double)
  | text (t : Text)
  /-- A text with halves of characters in it, by the numbers of its characters and halves. -/
  | torn (codes : List Nat)
  | bytes (b : Bytes)
  /-- A value of another kind, such as a date, as it is written. -/
  | other (t : Text)
  deriving DecidableEq, Repr

namespace Scalar

/-- The number that a scalar stands for among other numbers; the booleans stand for zero and one. -/
def number? : Scalar → Option Rat
  | bool b => some (if b then 1 else 0)
  | int i => some i
  | float x => x.toRat?
  | _ => none

/-- Whether two scalars are the same key: equal numbers are, however they are written. -/
def isSameKey (a b : Scalar) : Bool :=
  match a.number?, b.number? with
  | some x, some y => x == y
  | none, none => a == b
  | _, _ => false

end Scalar

/-! ### Access by key -/

/-- Values at scalars, in the order of first insertion. -/
abbrev Entries (α : Type) := Assoc Scalar α

namespace Entries

variable {α : Type}

/-- The value at a key. -/
def get? : Entries α → Scalar → Option α
  | [], _ => none
  | (k, v) :: r, x => if k.isSameKey x then some v else get? r x

/-- The entries with a value at a key; where there is an equal key, that one stays. -/
def put : Entries α → Scalar → α → Entries α
  | [], x, v => [(x, v)]
  | (k, w) :: r, x, v => if k.isSameKey x then (k, v) :: r else (k, w) :: put r x v

end Entries

/-! ### Settings -/

/-- Configuration data. -/
inductive Setting where
  | scalar (s : Scalar)
  | list (items : List Setting)
  | map (entries : List (Scalar × Setting))
  deriving Repr

namespace Setting

instance : Inhabited Setting := ⟨scalar .null⟩

/-- A text as configuration data. -/
def text (t : Text) : Setting := scalar (.text t)

/-- The entries of a mapping; nothing else has entries. -/
def entries? : Setting → Option (Entries Setting)
  | map es => some es
  | _ => none

/-! ### Merging -/

mutual

/-- What stands at a key for which `base` is overridden by the second value. -/
def override (base : Option Setting) : Setting → Setting
  | map es => match base with
    | some (map bs) => map (merge bs es)
    | _ => map es
  | v => v

/-- **Merges entries into a mapping.** -/
def merge (base : Entries Setting) : List (Scalar × Setting) → Entries Setting
  | [] => base
  | (k, v) :: r => merge (Entries.put base k (override (Entries.get? base k) v)) r

end

end Setting

/-! ### JSON values -/

namespace Json

mutual

/-- A JSON value as configuration data. -/
def toSetting : Json → Setting
  | null => .scalar .null
  | bool b => .scalar (.bool b)
  | int i => .scalar (.int i)
  | float x => .scalar (.float x)
  | text t => .scalar (.text t)
  | list items => .list (toSettings items)
  | map es => .map (toEntries es)

/-- JSON values as configuration data. -/
def toSettings : List Json → List Setting
  | [] => []
  | j :: r => toSetting j :: toSettings r

/-- The entries of a JSON mapping as entries of configuration data. -/
def toEntries : List (Text × Json) → List (Scalar × Setting)
  | [] => []
  | (k, j) :: r => (.text k, toSetting j) :: toEntries r

end

end Json

end InlineSecrets
