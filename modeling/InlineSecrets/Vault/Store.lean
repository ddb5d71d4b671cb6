/-
**Stores of secrets.**

A store maps paths to secrets, and a secret maps keys to values.  This is the plain picture of a
vault, and at the same time a vault that lives in memory.

Main definitions:

* `InlineSecrets.Vault.Store` — stores;
* `InlineSecrets.Vault.Store.read?`, `InlineSecrets.Vault.Store.write` — reading and writing one
  key.

Main results:

* `InlineSecrets.Vault.Store.read?_write` — **writing one key changes that key only.**
-/

import InlineSecrets.Json.Basic

set_option relaxedAutoImplicit false
set_option autoImplicit false

namespace InlineSecrets

namespace Vault

/-- Stores: for every path a secret, for every key of a secret a value. -/
abbrev Store := Assoc Text (Assoc Text Json)

namespace Store

/-- The secret at a path; where there is none, an empty one. -/
def secret (s : Store) (path : Text) : Assoc Text Json := (Assoc.get? s path).getD []

/-- The value of a key, unless it is null. -/
def read? (s : Store) (path key : Text) : Option Json :=
  (Assoc.get? (s.secret path) key).bind Json.nonNull?

/-- The store with a value at a key. -/
def write (s : Store) (path key : Text) (value : Json) : Store :=
  Assoc.set s path (Assoc.set (s.secret path) key value)

/-- The store without a key. -/
def erase (s : Store) (path key : Text) : Store :=
  match Assoc.get? s path with
  | none => s
  | some es => Assoc.set s path (Assoc.erase es key)

/-- Writing one key of one secret changes that key only. -/
theorem read?_write (s : Store) (path key : Text) (value : Json) (path' key' : Text) :
    (s.write path key value).read? path' key' =
      if path = path' ∧ key = key' then value.nonNull? else s.read? path' key' := by
  by_cases hpath : path = path'
  · subst hpath
    by_cases hkey : key = key'
    · simp [read?, secret, write, hkey]
    · simp [read?, secret, write, hkey, Assoc.get?_set_of_ne]
  · simp [read?, secret, write, hpath, Assoc.get?_set_of_ne]

end Store

end Vault

end InlineSecrets
