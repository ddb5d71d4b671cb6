/-
**Vault servers.**

A server answers a path with a response, a JSON value, or with a fault, and takes new contents for a
path.  A secret comes in one of two layouts: the plain one, where the data of the response is the
secret, and the versioned one, where the secret is one level further down, next to its metadata.
Which layout a path has is seen from its data.

Main definitions:

* `InlineSecrets.Vault.Fault` — what a server reports when it does not serve a request;
* `InlineSecrets.Vault.Server` — servers, with `read` and `write`;
* `InlineSecrets.Vault.Layout.of` — the layout of the data of a response;
* `InlineSecrets.Vault.Connection` — a server with the layout to be used for new paths;
* `InlineSecrets.Vault.Connection.readKey`, `InlineSecrets.Vault.Connection.writeKey` — reading and
  writing one key of a secret.
-/

import InlineSecrets.Json.Basic

set_option relaxedAutoImplicit false
set_option autoImplicit false

namespace InlineSecrets

namespace Vault

/-! ### Faults -/

/-- What the service itself reports. -/
inductive ServiceFault where
  | invalidPath
  | forbidden
  | unspecified
  | down
  | invalidRequest
  | unauthorized
  | internal
  deriving DecidableEq, Repr

/-- The kinds of faults: of the service, of the connection to it, and all others, by their names. -/
inductive FaultKind where
  | service (kind : ServiceFault)
  | unreachable
  | timeout
  | foreign (name : String)
  deriving DecidableEq, Repr

/-- What is reported when a request is not served. -/
structure Fault where
  kind : FaultKind
  message : Text
  method : Option Text := none
  url : Option Text := none
  deriving DecidableEq, Repr

namespace Fault

/-- The wording of a fault; one of the service names the request. -/
def text (f : Fault) : String :=
  match f.kind with
  | .service _ =>
      String.ofList f.message ++ ", on " ++ (f.method.map String.ofList).getD "None" ++ " " ++
        (f.url.map String.ofList).getD "None"
  | _ => String.ofList f.message

/-- Whether the fault says that there is nothing at the path. -/
def isAbsence (f : Fault) : Bool := f.kind == .service .invalidPath

/-- Whether the fault comes from the service or from the connection to it. -/
def isVault (f : Fault) : Bool :=
  match f.kind with
  | .foreign _ => false
  | _ => true

end Fault

/-! ### Servers -/

/-- The requests that a server has received. -/
inductive Request where
  | read (path : Text)
  | write (path : Text) (data : Assoc Text Json)
  deriving Repr

/-- A server: the responses for paths, the faults of paths that cannot be read or written, the paths
with the versioned layout, and the requests received so far. -/
structure Server where
  responses : Assoc Text Json := []
  readFaults : Assoc Text Fault := []
  writeFaults : Assoc Text Fault := []
  versioned : List Text := []
  received : List Request := []

namespace Server

/-- The response of a path. -/
def read (s : Server) (path : Text) : Except Fault (Option Json) × Server :=
  let after := { s with received := s.received ++ [.read path] }
  match Assoc.get? s.readFaults path with
  | some f => (.error f, after)
  | none => (.ok (Assoc.get? s.responses path), after)

/-- The version number in a response, or zero. -/
def versionOf (response : Option Json) : Int :=
  match response.bind (·.get? "data".toList) |>.bind (·.get? "metadata".toList)
      |>.bind (·.get? "version".toList) with
  | some (.int n) => n
  | _ => 0

/-- What a path with the versioned layout answers after it was written with `inner` for the version
in front. -/
def versionedResponse (inner : Assoc Text Json) (version : Int) : Json :=
  .map [("data".toList, .map [("data".toList, .map inner),
    ("metadata".toList, .map [("version".toList, .int (version + 1))])])]

/-- Takes new contents for a path. -/
def write (s : Server) (path : Text) (data : Assoc Text Json) : Except Fault Unit × Server :=
  let after := { s with received := s.received ++ [.write path data] }
  match Assoc.get? s.writeFaults path with
  | some f => (.error f, after)
  | none =>
      if s.versioned.contains path then
        match (Assoc.get? data "data".toList).bind Json.entries? with
        | none =>
            (.error ⟨.service .invalidRequest, "no data provided".toList, some "put".toList,
              some ("v1/".toList ++ path)⟩, after)
        | some inner =>
            let version := versionOf (Assoc.get? s.responses path)
            (.ok (), { after with
              responses := Assoc.set s.responses path (versionedResponse inner version) })
      else
        (.ok (), { after with
          responses := Assoc.set s.responses path (.map [("data".toList, .map data)]) })

end Server

/-! ### Layouts -/

/-- The two layouts of a secret. -/
inductive Layout where
  | plain
  | versioned
  deriving DecidableEq, Repr

/-- The secret inside the data of a response in the versioned layout: data and metadata are
mappings, and the metadata carries a version. -/
def Layout.inner? (data : Assoc Text Json) : Option (Assoc Text Json) :=
  match (Assoc.get? data "metadata".toList).bind Json.entries?,
      (Assoc.get? data "data".toList).bind Json.entries? with
  | some metadata, some inner =>
      if ((Assoc.get? metadata "version".toList).bind Json.nonNull?).isSome then some inner
      else none
  | _, _ => none

/-- The layout of the data of a response. -/
def Layout.of (data : Assoc Text Json) : Layout :=
  if (Layout.inner? data).isSome then .versioned else .plain

/-! ### Connections -/

/-- A server, and the layout to be used for paths where there is nothing yet. -/
structure Connection where
  server : Server
  fresh : Option Layout := none

namespace Connection

/-- The data at a path, if there is any. -/
def data? (c : Connection) (path : Text) : Except Fault (Option (Assoc Text Json)) × Connection :=
  let (answer, server) := c.server.read path
  let after := { c with server }
  match answer with
  | .ok response => (.ok (response.bind (·.get? "data".toList) |>.bind Json.entries?), after)
  | .error f => if f.isAbsence then (.ok none, after) else (.error f, after)

/-- The value of one key of a secret, unless it is null. -/
def readKey (c : Connection) (path key : Text) : Except Fault (Option Json) × Connection :=
  match c.data? path with
  | (.error f, c) => (.error f, c)
  | (.ok none, c) => (.ok none, c)
  | (.ok (some data), c) =>
      let secret := (Layout.inner? data).getD data
      (.ok ((Assoc.get? secret key).bind Json.nonNull?), c)

/-- What is to be written so that one key of the secret at a path changes and the others stay. -/
def body (fresh : Option Layout) (data : Option (Assoc Text Json)) (key : Text) (value : Json) :
    Assoc Text Json :=
  match data with
  | some data =>
      match Layout.inner? data with
      | some inner => [("data".toList, .map (Assoc.set inner key value))]
      | none => Assoc.set data key value
  | none =>
      if fresh = some .versioned then [("data".toList, .map [(key, value)])] else [(key, value)]

/-- The step at which writing a key fails. -/
inductive WriteFault where
  | reading (fault : Fault)
  | writing (fault : Fault)

/-- Sets one key of a secret. -/
def writeKey (c : Connection) (path key : Text) (value : Json) :
    Except WriteFault Unit × Connection :=
  match c.data? path with
  | (.error f, c) => (.error (.reading f), c)
  | (.ok data, c) =>
      let (answer, server) := c.server.write path (body c.fresh data key value)
      (match answer with
        | .ok () => .ok ()
        | .error f => .error (.writing f), { c with server })

end Connection

end Vault

end InlineSecrets
