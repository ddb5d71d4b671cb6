/-
**Clients of a vault.**

A client reads and writes single keys of secrets, of a store in memory or of a server.  References
in texts name what to read or write: `path#key` is looked up, and `path#key#value` is kept.

Main definitions:

* `InlineSecrets.Vault.Client` — clients, with `read` and `write`;
* `InlineSecrets.Vault.Failure` — the ways in which following a reference fails;
* `InlineSecrets.Vault.lookUp`, `InlineSecrets.Vault.keep` — following a reference.
-/

import InlineSecrets.Json.Canonical
import InlineSecrets.Vault.Server
import InlineSecrets.Vault.Store

set_option relaxedAutoImplicit false
set_option autoImplicit false

namespace InlineSecrets

namespace Vault

/-! ### Failures -/

/-- The ways in which following a reference fails. -/
inductive Failure where
  | unreadable (path : Text) (fault : Fault)
  | unwritable (path : Text) (fault : Fault)
  /-- A fault that has nothing to do with the vault. -/
  | foreign (fault : Fault)
  | malformed (expected : Int) (got : Nat)
  | notFound (path key : Text)
  deriving DecidableEq, Repr

/-- The wording of a failure. -/
def Failure.message : Failure → String
  | .unreadable path f => "failed to read secret at " ++ Text.quoted path ++ ": " ++ f.text
  | .unwritable path f => "failed to write secret at " ++ Text.quoted path ++ ": " ++ f.text
  | .foreign f => f.text
  | .malformed expected got =>
      "expected secret declaration with " ++ toString expected ++ " parts, got " ++ toString got
  | .notFound path key => "secret " ++ Text.quoted key ++ " not found at " ++ Text.quoted path

/-! ### Clients -/

/-- The requests for single keys that a store in memory has received. -/
inductive KeyRequest where
  | read (path key : Text)
  | write (path key : Text) (value : Json)
  deriving Repr

/-- A client of a vault: of a store in memory, with the requests received so far, or of a server. -/
inductive Client where
  | memory (store : Store) (received : List KeyRequest)
  | remote (connection : Connection)

namespace Client

/-- The value of a key, unless it is null. -/
def read (path key : Text) : Client → Except Failure (Option Json) × Client
  | memory store received =>
      (.ok (store.read? path key), memory store (received ++ [.read path key]))
  | remote connection =>
      let (answer, connection) := connection.readKey path key
      (answer.mapError fun f => if f.isVault then .unreadable path f else .foreign f,
        remote connection)

/-- Sets a key. -/
def write (path key : Text) (value : Json) : Client → Except Failure Unit × Client
  | memory store received =>
      (.ok (), memory (store.write path key value) (received ++ [.write path key value]))
  | remote connection =>
      let (answer, connection) := connection.writeKey path key value
      (answer.mapError fun
        | .reading f => if f.isVault then .unreadable path f else .foreign f
        | .writing f => if f.isVault then .unwritable path f else .foreign f,
        remote connection)

end Client

/-! ### References -/

/-- The parts of a reference, which must be as many as expected. -/
def parts (expected : Int) (t : Text) : Except Failure (List Text) :=
  let ps := t.split '#'
  if ps.length = expected then .ok ps else .error (.malformed expected ps.length)

/-- **The text of the secret that `path#key` refers to.** -/
def lookUp (t : Text) (c : Client) : Except Failure Text × Client :=
  match parts 2 t with
  | .error f => (.error f, c)
  | .ok ps =>
      let path := ps.getD 0 []
      let key := ps.getD 1 []
      match c.read path key with
      | (.error f, c) => (.error f, c)
      | (.ok none, c) => (.error (.notFound path key), c)
      | (.ok (some v), c) => (.ok v.plainText, c)

/-- **Keeps the value in `path#key#value`,** and returns the reference `path#key` to it. -/
def keep (t : Text) (c : Client) : Except Failure Text × Client :=
  match parts 3 t with
  | .error f => (.error f, c)
  | .ok ps =>
      let path := ps.getD 0 []
      let key := ps.getD 1 []
      match c.write path key (.text (ps.getD 2 [])) with
      | (.error f, c) => (.error f, c)
      | (.ok (), c) => (.ok (path ++ '#' :: key), c)

end Vault

end InlineSecrets
