/-
**A client of a server does what a client of a store does.**

A server keeps a secret in one of two layouts, and which one is seen from the data only.  A server
conforms when each path with the versioned layout shows that layout or nothing, and each other path
shows data that do not look like it, or nothing.  Setting a key to a text keeps it so: a text is no
mapping, so data that do not look versioned cannot come to look so, not even by the keys `data` and
`metadata`.  Hence the layout that is seen before a key is set is the one seen afterwards, and the
keys shown are those of a store in which the same operations were done, except for the operations
that meet a fault; these leave the server as it was.

Main definitions:

* `InlineSecrets.Vault.Layout.shown` — the secret that a response shows;
* `InlineSecrets.Vault.Server.Conforms` — servers whose responses show their layouts;
* `InlineSecrets.Vault.Operation`, `InlineSecrets.Vault.Operation.perform` — reading and setting
  single keys;
* `InlineSecrets.Vault.Represents` — **a server that holds what a store holds.**

Main results:

* `InlineSecrets.Vault.Layout.inner?_set_text` — setting a key to a text never makes data look
  versioned;
* `InlineSecrets.Vault.Server.exists_write_written` — setting a key changes that key only;
* `InlineSecrets.Vault.Represents.perform_of_served`,
  `InlineSecrets.Vault.Represents.perform_of_failure?` — one operation, without and with a fault;
* `InlineSecrets.Vault.perform_remote_eq_perform_memory` — **after any operations, the next one
  does what it does to a store, or fails and changes nothing.**
-/

import InlineSecrets.Vault.Client
import Mathlib.Data.Option.Basic

set_option relaxedAutoImplicit false
set_option autoImplicit false

namespace InlineSecrets

namespace Vault

/-! ### What responses show -/

namespace Layout

/-- The data of a response. -/
def data? (response : Option Json) : Option (Assoc Text Json) :=
  response.bind (·.get? "data".toList) |>.bind Json.entries?

/-- The secret that a response shows; there is nothing in one that has no data. -/
def shown (response : Option Json) : Assoc Text Json :=
  ((data? response).map fun data => (inner? data).getD data).getD []

/-- A response says that there is nothing at a path: there is none, or it is null. -/
def IsAbsent (response : Option Json) : Prop := response.all Json.isNull = true

instance (response : Option Json) : Decidable (IsAbsent response) :=
  inferInstanceAs (Decidable (response.all Json.isNull = true))

/-- The responses of a path with the versioned layout, or with the plain one: nothing, the versioned
layout with a whole number as its version, or data without that layout. -/
inductive Shows (isVersioned : Bool) : Option Json → Prop where
  | absent {response : Option Json} (h : IsAbsent response) : Shows isVersioned response
  | versioned {response data inner metadata : Assoc Text Json} {version : Int}
      (h : isVersioned = true)
      (hresponse : Assoc.get? response "data".toList = some (.map data))
      (hdata : Assoc.get? data "data".toList = some (.map inner))
      (hmetadata : Assoc.get? data "metadata".toList = some (.map metadata))
      (hversion : Assoc.get? metadata "version".toList = some (.int version)) :
      Shows isVersioned (some (.map response))
  | plain {response data : Assoc Text Json} (h : isVersioned = false)
      (hresponse : Assoc.get? response "data".toList = some (.map data))
      (hdata : inner? data = none) : Shows isVersioned (some (.map response))

variable {data inner : Assoc Text Json} {key value : Text}

theorem data?_map {response : Assoc Text Json}
    (h : Assoc.get? response "data".toList = some (.map data)) :
    data? (some (.map response)) = some data := by
  simp only [data?, Json.get?, Json.entries?, h, Option.bind_some]

/-- What a response with data shows. -/
theorem shown_map {response : Assoc Text Json}
    (h : Assoc.get? response "data".toList = some (.map data)) :
    shown (some (.map response)) = (inner? data).getD data := by
  rw [shown, data?_map h]
  rfl

theorem IsAbsent.data?_eq_none {response : Option Json} (h : IsAbsent response) :
    data? response = none := by
  rcases response with _ | ⟨_ | _⟩ <;> first | rfl | cases h

theorem inner?_eq_some {metadata : Assoc Text Json} {version : Int}
    (hdata : Assoc.get? data "data".toList = some (.map inner))
    (hmetadata : Assoc.get? data "metadata".toList = some (.map metadata))
    (hversion : Assoc.get? metadata "version".toList = some (.int version)) :
    inner? data = some inner := by
  simp only [inner?, hdata, hmetadata, hversion, Option.bind_some, Json.entries?, Json.nonNull?,
    Option.isSome_some, if_true]

/-- **Setting a key to a text never makes data look versioned,** whichever key it is. -/
theorem inner?_set_text (h : inner? data = none) :
    inner? (Assoc.set data key (.text value)) = none := by
  by_cases hmetadata : key = "metadata".toList
  · -- the metadata are a text now
    simp [inner?, hmetadata, Json.entries?]
  · by_cases hdata : key = "data".toList
    · cases hm : (Assoc.get? data "metadata".toList).bind Json.entries? <;>
        simp [inner?, hdata, Json.entries?]
    · rw [← h, inner?, inner?, Assoc.get?_set_of_ne _ _ hmetadata, Assoc.get?_set_of_ne _ _ hdata]

end Layout

open Layout

/-! ### Servers that conform -/

namespace Server

variable {s s' : Server} {path key value : Text} {fresh : Option Layout}

/-- The value that a server holds at a key. -/
def value? (s : Server) (path key : Text) : Option Json :=
  Assoc.get? (shown (Assoc.get? s.responses path)) key

/-- There is nothing at a path of a server. -/
def Absent (s : Server) (path : Text) : Prop := IsAbsent (Assoc.get? s.responses path)

instance (s : Server) (path : Text) : Decidable (s.Absent path) :=
  inferInstanceAs (Decidable (IsAbsent _))

/-- A server conforms when the responses show the layouts of their paths.  All its faults are of the
service or the connection, and none of those met in reading says that there is nothing. -/
structure Conforms (s : Server) : Prop where
  shows : ∀ path, Shows (s.versioned.contains path) (Assoc.get? s.responses path)
  readFault : ∀ path f, Assoc.get? s.readFaults path = some f →
    f.isVault = true ∧ f.isAbsence = false
  writeFault : ∀ path f, Assoc.get? s.writeFaults path = some f → f.isVault = true

/-- The server behind a request. -/
def receive (s : Server) (r : Request) : Server := { s with received := s.received ++ [r] }

/-- The server with another response for a path. -/
def answering (s : Server) (path : Text) (response : Json) : Server :=
  { s with responses := Assoc.set s.responses path response }

theorem read_of_fault {f : Fault} (h : Assoc.get? s.readFaults path = some f) :
    s.read path = (.error f, s.receive (.read path)) := by
  simp only [read, h]
  rfl

theorem read_of_served (h : Assoc.get? s.readFaults path = none) :
    s.read path = (.ok (Assoc.get? s.responses path), s.receive (.read path)) := by
  simp only [read, h]
  rfl

theorem write_of_fault {f : Fault} (h : Assoc.get? s.writeFaults path = some f)
    (data : Assoc Text Json) :
    s.write path data = (.error f, s.receive (.write path data)) := by
  simp only [write, h]
  rfl

/-- A path with the versioned layout takes a new version. -/
theorem write_versioned (h : Assoc.get? s.writeFaults path = none)
    (hpath : s.versioned.contains path = true) {data inner : Assoc Text Json}
    (hinner : (Assoc.get? data "data".toList).bind Json.entries? = some inner) :
    s.write path data =
      (.ok (), (s.answering path (versionedResponse inner
        (versionOf (Assoc.get? s.responses path)))).receive (.write path data)) := by
  simp only [write, h, hpath, hinner, if_true]
  rfl

/-- It does not take what has no secret in it. -/
theorem write_refused (h : Assoc.get? s.writeFaults path = none)
    (hpath : s.versioned.contains path = true) {data : Assoc Text Json}
    (hinner : (Assoc.get? data "data".toList).bind Json.entries? = none) :
    s.write path data =
      (.error ⟨.service .invalidRequest, "no data provided".toList, some "put".toList,
        some ("v1/".toList ++ path)⟩, s.receive (.write path data)) := by
  simp only [write, h, hpath, hinner, if_true]
  rfl

/-- A path with the plain layout takes what is written as its data. -/
theorem write_plain (h : Assoc.get? s.writeFaults path = none)
    (hpath : s.versioned.contains path = false) (data : Assoc Text Json) :
    s.write path data =
      (.ok (), (s.answering path (.map [("data".toList, .map data)])).receive
        (.write path data)) := by
  simp only [write, h, hpath, if_neg Bool.false_ne_true]
  rfl

theorem shows_versionedResponse (inner : Assoc Text Json) (version : Int) :
    Shows true (some (versionedResponse inner version)) ∧
      shown (some (versionedResponse inner version)) = inner := by
  constructor
  · exact .versioned rfl rfl rfl rfl rfl
  · rw [versionedResponse, shown_map rfl, inner?_eq_some rfl rfl rfl]
    rfl

theorem shows_plainResponse {data : Assoc Text Json} (h : inner? data = none) :
    Shows false (some (.map [("data".toList, .map data)])) ∧
      shown (some (.map [("data".toList, .map data)])) = data := by
  constructor
  · exact .plain rfl rfl h
  · rw [shown_map rfl, h]
    rfl

/-- What is to be written for a key. -/
def written (s : Server) (fresh : Option Layout) (path key value : Text) : Assoc Text Json :=
  Connection.body fresh (data? (Assoc.get? s.responses path)) key (.text value)

/-- **Setting a key changes that key only,** whichever layout the path has: the server takes what is
written, and shows the secret with the key set, in the layout of the path. -/
theorem exists_write_written (hs : s.Conforms) (hwrite : Assoc.get? s.writeFaults path = none)
    (hfresh : s.Absent path → (s.versioned.contains path = true ↔ fresh = some .versioned))
    (key value : Text) :
    ∃ response : Assoc Text Json,
      s.write path (s.written fresh path key value) =
        (.ok (), (s.answering path (.map response)).receive
          (.write path (s.written fresh path key value))) ∧
      Shows (s.versioned.contains path) (some (.map response)) ∧
      shown (some (.map response)) =
        Assoc.set (shown (Assoc.get? s.responses path)) key (.text value) := by
  have hshows := hs.shows path
  generalize hresponse : Assoc.get? s.responses path = response at hshows
  cases hshows with
  | absent habsent =>
      -- there is nothing yet, so the path gets the layout for new paths
      have hempty : inner? [] = none := rfl
      have hnone : inner? [(key, .text value)] = none := inner?_set_text hempty
      have hshown : shown response = [] := by rw [shown, habsent.data?_eq_none]; rfl
      rw [Absent, hresponse] at hfresh
      have hiff := hfresh habsent
      rw [written, hresponse, habsent.data?_eq_none, hshown, Connection.body]
      by_cases hlayout : fresh = some .versioned
      · have hpath := hiff.2 hlayout
        rw [if_pos hlayout, hpath]
        exact ⟨_, write_versioned hwrite hpath rfl, shows_versionedResponse _ _⟩
      · have hpath : s.versioned.contains path = false := by
          rw [← Bool.not_eq_true]
          exact mt hiff.1 hlayout
        rw [if_neg hlayout, hpath]
        exact ⟨_, write_plain hwrite hpath _, shows_plainResponse hnone⟩
  | versioned hpath hmap hdata hmetadata hversion =>
      have hinner := inner?_eq_some hdata hmetadata hversion
      rw [written, hresponse, data?_map hmap, shown_map hmap, Connection.body, hinner, hpath]
      exact ⟨_, write_versioned hwrite hpath rfl, shows_versionedResponse _ _⟩
  | plain hpath hmap hdata =>
      rw [written, hresponse, data?_map hmap, shown_map hmap, Connection.body, hdata, hpath]
      exact ⟨_, write_plain hwrite hpath _, shows_plainResponse (inner?_set_text hdata)⟩

end Server

/-! ### One key of a connection -/

namespace Connection

variable {s : Server} {path key value : Text} {fresh : Option Layout} {f : Fault}

theorem data?_of_fault (h : Assoc.get? s.readFaults path = some f) (hf : f.isAbsence = false) :
    data? ⟨s, fresh⟩ path = (.error f, ⟨s.receive (.read path), fresh⟩) := by
  simp only [data?, Server.read_of_fault h, hf, if_neg Bool.false_ne_true]

theorem data?_of_served (h : Assoc.get? s.readFaults path = none) :
    data? ⟨s, fresh⟩ path =
      (.ok (Layout.data? (Assoc.get? s.responses path)), ⟨s.receive (.read path), fresh⟩) := by
  simp only [data?, Server.read_of_served h]
  rfl

theorem readKey_of_fault (h : Assoc.get? s.readFaults path = some f) (hf : f.isAbsence = false)
    (key : Text) :
    readKey ⟨s, fresh⟩ path key = (.error f, ⟨s.receive (.read path), fresh⟩) := by
  rw [readKey, data?_of_fault h hf]

theorem readKey_of_served (h : Assoc.get? s.readFaults path = none) (key : Text) :
    readKey ⟨s, fresh⟩ path key =
      (.ok ((s.value? path key).bind Json.nonNull?), ⟨s.receive (.read path), fresh⟩) := by
  rw [readKey, data?_of_served h, Server.value?, shown]
  cases Layout.data? (Assoc.get? s.responses path) <;> rfl

theorem writeKey_of_readFault (h : Assoc.get? s.readFaults path = some f)
    (hf : f.isAbsence = false) (key : Text) (value : Json) :
    writeKey ⟨s, fresh⟩ path key value =
      (.error (.reading f), ⟨s.receive (.read path), fresh⟩) := by
  rw [writeKey, data?_of_fault h hf]

theorem writeKey_of_served (hread : Assoc.get? s.readFaults path = none) {key value : Text}
    {answer : Except Fault Unit} {s' : Server}
    (hwrite : (s.receive (.read path)).write path (s.written fresh path key value) =
      (answer, s')) :
    writeKey ⟨s, fresh⟩ path key (.text value) = (answer.mapError .writing, ⟨s', fresh⟩) := by
  rw [Server.written] at hwrite
  rw [writeKey, data?_of_served hread]
  simp only [hwrite]
  cases answer <;> rfl

end Connection

/-! ### Operations -/

/-- Reading one key, or setting it to a text. -/
inductive Operation where
  | read (path key : Text)
  | write (path key value : Text)
  deriving DecidableEq, Repr

namespace Operation

/-- The path of an operation. -/
def path : Operation → Text
  | read path _ | write path _ _ => path

/-- What a client answers, which is nothing when a key is set, and the client after that. -/
def perform : Operation → Client → Except Failure (Option Json) × Client
  | read path key, c => c.read path key
  | write path key value, c =>
      let (answer, c) := c.write path key (.text value)
      (answer.map fun _ => none, c)

/-- The client after some operations, whether they fail or not. -/
def performAll (ops : List Operation) (c : Client) : Client :=
  ops.foldl (fun c o => (o.perform c).2) c

/-- What a store answers. -/
def answer : Operation → Store → Option Json
  | read path key, store => store.read? path key
  | write _ _ _, _ => none

/-- The store after an operation. -/
def effect : Operation → Store → Store
  | read _ _, store => store
  | write path key value, store => store.write path key (.text value)

/-- What an operation sets a key to, if it sets it. -/
def set? : Operation → (path key : Text) → Option Json
  | read _ _, _, _ => none
  | write path key value, path', key' =>
      if path = path' ∧ key = key' then some (.text value) else none

/-- How an operation fails at a server, if it meets a fault. -/
def failure? (s : Server) : Operation → Option Failure
  | read path _ => (Assoc.get? s.readFaults path).map (.unreadable path)
  | write path _ _ =>
      ((Assoc.get? s.readFaults path).map (.unreadable path)).or
        ((Assoc.get? s.writeFaults path).map (.unwritable path))

/-- An operation that sets a key, where there is nothing at its path yet, does so at a path that has
the layout for new paths. -/
def Suits (s : Server) (fresh : Option Layout) : Operation → Prop
  | read _ _ => True
  | write path key value =>
      failure? s (write path key value) = none → s.Absent path →
        (s.versioned.contains path = true ↔ fresh = some .versioned)

instance (s : Server) (fresh : Option Layout) : DecidablePred (Suits s fresh)
  | read _ _ => inferInstanceAs (Decidable True)
  | write _ _ _ => inferInstanceAs (Decidable (_ → _ → _))

theorem perform_memory (o : Operation) (store : Store) (received : List KeyRequest) :
    ∃ received', o.perform (.memory store received) =
      (.ok (o.answer store), .memory (o.effect store) received') := by
  cases o <;> exact ⟨_, rfl⟩

/-- Setting a key meets no fault, neither in reading nor in writing. -/
theorem failure?_write_eq_none_iff {s : Server} {path key value : Text} :
    failure? s (write path key value) = none ↔
      Assoc.get? s.readFaults path = none ∧ Assoc.get? s.writeFaults path = none := by
  simp [failure?]

end Operation

open Operation

/-! ### Servers that hold what stores hold -/

/-- A server, reached from another one, that conforms and holds what a store holds: it meets the
same faults and has the same layouts, and there is something wherever there was something. -/
structure Represents (origin : Server) (store : Store) (s : Server) : Prop where
  conforms : s.Conforms
  value?_eq : ∀ path key, s.value? path key = Assoc.get? (store.secret path) key
  readFaults_eq : s.readFaults = origin.readFaults
  writeFaults_eq : s.writeFaults = origin.writeFaults
  versioned_eq : s.versioned = origin.versioned
  absent : ∀ path, s.Absent path → origin.Absent path

namespace Represents

variable {origin s : Server} {store : Store} {o : Operation} {fresh : Option Layout}

/-- Requests alone change nothing. -/
theorem receive (h : Represents origin store s) (r : Request) :
    Represents origin store (s.receive r) :=
  ⟨⟨h.conforms.shows, h.conforms.readFault, h.conforms.writeFault⟩, h.value?_eq, h.readFaults_eq,
    h.writeFaults_eq, h.versioned_eq, h.absent⟩

/-- The server with a key set represents the store with that key set. -/
theorem answering (h : Represents origin store s) {path key value : Text}
    {response : Assoc Text Json}
    (hshows : Shows (s.versioned.contains path) (some (.map response)))
    (hshown : shown (some (.map response)) =
      Assoc.set (shown (Assoc.get? s.responses path)) key (.text value)) :
    Represents origin (store.write path key (.text value)) (s.answering path (.map response)) ∧
      ∀ path' key', (s.answering path (.map response)).value? path' key' =
        ((Operation.write path key value).set? path' key').or (s.value? path' key') := by
  have hother : ∀ path', path ≠ path' →
      Assoc.get? (s.answering path (.map response)).responses path' =
        Assoc.get? s.responses path' :=
    fun path' hne => Assoc.get?_set_of_ne _ _ hne
  have hself : Assoc.get? (s.answering path (.map response)).responses path =
      some (.map response) := Assoc.get?_set_self _ _ _
  have hvalue : ∀ path' key', (s.answering path (.map response)).value? path' key' =
      ((Operation.write path key value).set? path' key').or (s.value? path' key') := by
    intro path' key'
    by_cases hpath : path = path'
    · subst hpath
      rw [Server.value?, hself, hshown, Assoc.get?_set, Operation.set?]
      by_cases hkey : key = key' <;> simp [hkey, Server.value?]
    · rw [Server.value?, hother path' hpath, Operation.set?]
      simp [hpath, Server.value?]
  refine ⟨⟨⟨fun path' => ?_, h.conforms.readFault, h.conforms.writeFault⟩, fun path' key' => ?_,
    h.readFaults_eq, h.writeFaults_eq, h.versioned_eq, fun path' habsent => ?_⟩, hvalue⟩
  · by_cases hpath : path = path'
    · subst hpath
      rw [hself]
      exact hshows
    · rw [hother path' hpath]
      exact h.conforms.shows path'
  · rw [hvalue, h.value?_eq, Operation.set?]
    by_cases hpath : path = path'
    · subst hpath
      by_cases hkey : key = key' <;>
        simp [hkey, Store.secret, Store.write, Assoc.get?_set]
    · simp [hpath, Store.secret, Store.write, Assoc.get?_set_of_ne]
  · by_cases hpath : path = path'
    · subst hpath
      rw [Server.Absent, hself] at habsent
      cases habsent
    · rw [Server.Absent, hother path' hpath] at habsent
      exact h.absent path' habsent

/-- **An operation that meets a fault fails with it** and leaves the contents as they are; when the
fault is met in reading, nothing is written. -/
theorem perform_of_failure? (h : Represents origin store s) {failure : Failure}
    (hfailure : o.failure? origin = some failure) (fresh : Option Layout) :
    ∃ s', o.perform (.remote ⟨s, fresh⟩) = (.error failure, .remote ⟨s', fresh⟩) ∧
      s'.responses = s.responses ∧ Represents origin store s' ∧
      ((Assoc.get? origin.readFaults o.path).isSome →
        s'.received = s.received ++ [.read o.path]) := by
  cases o with
  | read path key =>
      obtain ⟨f, hf, rfl⟩ := Option.map_eq_some_iff.1 hfailure
      rw [← h.readFaults_eq] at hf
      obtain ⟨hvault, habsence⟩ := h.conforms.readFault path f hf
      refine ⟨s.receive (.read path), ?_, rfl, h.receive _, fun _ => rfl⟩
      simp only [perform, Client.read, Connection.readKey_of_fault hf habsence, Except.mapError,
        hvault, if_true]
  | write path key value =>
      cases hread : Assoc.get? s.readFaults path with
      | some f =>
          obtain ⟨hvault, habsence⟩ := h.conforms.readFault path f hread
          rw [failure?, ← h.readFaults_eq, hread] at hfailure
          cases hfailure
          refine ⟨s.receive (.read path), ?_, rfl, h.receive _, fun _ => rfl⟩
          simp only [perform, Client.write, Connection.writeKey_of_readFault hread habsence,
            Except.mapError, Except.map, hvault, if_true]
      | none =>
          rw [failure?, ← h.readFaults_eq, hread, Option.map_none, Option.none_or] at hfailure
          obtain ⟨f, hf, rfl⟩ := Option.map_eq_some_iff.1 hfailure
          rw [← h.writeFaults_eq] at hf
          have hvault := h.conforms.writeFault path f hf
          refine ⟨(s.receive (.read path)).receive (.write path (s.written fresh path key value)),
            ?_, rfl, (h.receive _).receive _, fun hsome => ?_⟩
          · have hwrite := Server.write_of_fault
              (show Assoc.get? (s.receive (.read path)).writeFaults path = some f from hf)
              (s.written fresh path key value)
            simp only [perform, Client.write, Connection.writeKey_of_served hread hwrite,
              Except.mapError, Except.map, hvault, if_true]
          · rw [Operation.path, ← h.readFaults_eq, hread] at hsome
            cases hsome

/-- **An operation that meets no fault does what it does to a store.** -/
theorem perform_of_served (h : Represents origin store s) (hserved : o.failure? origin = none)
    (hsuits : o.Suits origin fresh) :
    ∃ s', o.perform (.remote ⟨s, fresh⟩) = (.ok (o.answer store), .remote ⟨s', fresh⟩) ∧
      Represents origin (o.effect store) s' ∧
      ∀ path key, s'.value? path key = (o.set? path key).or (s.value? path key) := by
  cases o with
  | read path key =>
      have hread : Assoc.get? s.readFaults path = none := by
        rw [h.readFaults_eq]
        simpa [failure?] using hserved
      refine ⟨s.receive (.read path), ?_, h.receive _, fun _ _ => rfl⟩
      simp only [perform, Client.read, Connection.readKey_of_served hread, Except.mapError,
        h.value?_eq]
      rfl
  | write path key value =>
      obtain ⟨hread, hwrite⟩ := failure?_write_eq_none_iff.1 hserved
      rw [← h.readFaults_eq] at hread
      rw [← h.writeFaults_eq] at hwrite
      have hr := h.receive (.read path)
      have hfresh : (s.receive (.read path)).Absent path →
          ((s.receive (.read path)).versioned.contains path = true ↔ fresh = some .versioned) := by
        rw [hr.versioned_eq]
        exact fun habsent => hsuits hserved (hr.absent path habsent)
      obtain ⟨response, hanswer, hshows, hshown⟩ :=
        Server.exists_write_written hr.conforms hwrite hfresh key value
      obtain ⟨hrepresents, hvalue⟩ := hr.answering hshows hshown
      refine ⟨_, ?_, hrepresents.receive (.write path (s.written fresh path key value)), hvalue⟩
      simp only [perform, Client.write, Connection.writeKey_of_served hread hanswer]
      rfl

/-- A server holds after some operations what a store holds after those of them that meet no fault.
-/
theorem performAll (h : Represents origin store s) {ops : List Operation}
    (hops : ∀ o ∈ ops, o.Suits origin fresh) (received : List KeyRequest) :
    ∃ s' store' received',
      Operation.performAll ops (.remote ⟨s, fresh⟩) = .remote ⟨s', fresh⟩ ∧
      Operation.performAll (ops.filter fun o => (o.failure? origin).isNone)
        (.memory store received) = .memory store' received' ∧
      Represents origin store' s' := by
  induction ops generalizing s store received with
  | nil => exact ⟨s, store, received, rfl, rfl, h⟩
  | cons o ops ih =>
      have hops' : ∀ o ∈ ops, o.Suits origin fresh := fun o ho => hops o (List.mem_cons_of_mem _ ho)
      cases hfailure : o.failure? origin with
      | some failure =>
          obtain ⟨s₁, hperform, -, hs₁, -⟩ := h.perform_of_failure? hfailure fresh
          obtain ⟨s', store', received', hremote, hmemory, hs'⟩ := ih hs₁ hops' received
          refine ⟨s', store', received', ?_, ?_, hs'⟩
          · rw [← hremote, Operation.performAll, List.foldl_cons, hperform]
            rfl
          · rw [List.filter_cons_of_neg (by rw [hfailure]; simp), hmemory]
      | none =>
          obtain ⟨s₁, hperform, hs₁, -⟩ :=
            h.perform_of_served hfailure (hops o List.mem_cons_self)
          obtain ⟨received₁, hperform₁⟩ := o.perform_memory store received
          obtain ⟨s', store', received', hremote, hmemory, hs'⟩ := ih hs₁ hops' received₁
          refine ⟨s', store', received', ?_, ?_, hs'⟩
          · rw [← hremote, Operation.performAll, List.foldl_cons, hperform]
            rfl
          · rw [List.filter_cons_of_pos (by rw [hfailure]; rfl), ← hmemory, Operation.performAll,
              List.foldl_cons, hperform₁]
            rfl

end Represents

/-- **A client of a server does what a client of a store does.**  The server conforms and holds what
the store holds, and where there is nothing yet, keys are set at paths with the layout for new paths
only.  Then, after any operations, the server holds what the store holds after those of them that
met no fault; and the next operation, if it meets none, has the answer that it has for the store,
and sets one key of one path at most; else it fails with that fault and the contents stay as they
are, and after a fault in reading nothing is written.  The server conforms all along. -/
theorem perform_remote_eq_perform_memory {s : Server} {fresh : Option Layout} {store : Store}
    {ops : List Operation} {o : Operation} (hs : s.Conforms)
    (hstore : ∀ path key, s.value? path key = Assoc.get? (store.secret path) key)
    (hops : ∀ o' ∈ ops ++ [o], o'.Suits s fresh) (received : List KeyRequest) :
    ∃ s₁ store₁ received₁ answer s₂,
      performAll ops (.remote ⟨s, fresh⟩) = .remote ⟨s₁, fresh⟩ ∧
      performAll (ops.filter fun o => (o.failure? s).isNone) (.memory store received) =
        .memory store₁ received₁ ∧
      s₁.Conforms ∧ (∀ path key, s₁.value? path key = Assoc.get? (store₁.secret path) key) ∧
      o.perform (.remote ⟨s₁, fresh⟩) = (answer, .remote ⟨s₂, fresh⟩) ∧ s₂.Conforms ∧
      (o.failure? s = none → answer = (o.perform (.memory store₁ received₁)).1 ∧
        ∀ path key, s₂.value? path key = (o.set? path key).or (s₁.value? path key)) ∧
      (∀ failure, o.failure? s = some failure →
        answer = .error failure ∧ s₂.responses = s₁.responses) ∧
      ((Assoc.get? s.readFaults o.path).isSome → s₂.received = s₁.received ++ [.read o.path]) := by
  have h : Represents s store s := ⟨hs, hstore, rfl, rfl, rfl, fun _ habsent => habsent⟩
  obtain ⟨s₁, store₁, received₁, hremote, hmemory, h₁⟩ :=
    h.performAll (fun o' ho' => hops o' (List.mem_append_left _ ho')) received
  cases hfailure : o.failure? s with
  | some failure =>
      obtain ⟨s₂, hperform, hresponses, h₂, hread⟩ :=
        h₁.perform_of_failure? hfailure fresh
      refine ⟨s₁, store₁, received₁, _, s₂, hremote, hmemory, h₁.conforms, h₁.value?_eq, hperform,
        h₂.conforms, nofun, fun failure' hfailure' => ?_, hread⟩
      cases hfailure'
      exact ⟨rfl, hresponses⟩
  | none =>
      obtain ⟨s₂, hperform, h₂, hvalue⟩ :=
        h₁.perform_of_served hfailure (hops o (List.mem_append_right _ (List.mem_singleton_self o)))
      obtain ⟨received₂, hmemory₂⟩ := o.perform_memory store₁ received₁
      refine ⟨s₁, store₁, received₁, _, s₂, hremote, hmemory, h₁.conforms, h₁.value?_eq, hperform,
        h₂.conforms, fun _ => ⟨by rw [hmemory₂], hvalue⟩, nofun, fun hread => ?_⟩
      -- no fault was met, in reading neither
      cases o <;> simp_all [failure?, Operation.path]

/-! ### The store of a server -/

namespace Server

/-- The store with the secrets that a server shows. -/
def store (s : Server) : Store := s.responses.map fun e => (e.1, shown (some e.2))

theorem value?_eq_get?_store (s : Server) (path key : Text) :
    s.value? path key = Assoc.get? (s.store.secret path) key := by
  rw [value?, store, Store.secret]
  congr 1
  induction s.responses with
  | nil => rfl
  | cons e es ih =>
      rw [List.map_cons, Assoc.get?_cons, Assoc.get?]
      split
      · rfl
      · exact ih

end Server

/-- A server with a path of each layout, both with keys named like a part of the versioned layout, a
path of the versioned layout where there is nothing yet, and two paths with faults. -/
def mixed : Server where
  responses :=
    [("p".toList, .map [("data".toList,
      .map [("metadata".toList, .map [("version".toList, .int 1)])])]),
     ("q".toList, Server.versionedResponse [("data".toList, .map []), ("k".toList, .text [])] 4)]
  readFaults := [("r".toList, ⟨.timeout, "late".toList, none, none⟩)]
  writeFaults := [("w".toList, ⟨.service .forbidden, "denied".toList, none, none⟩)]
  versioned := ["q".toList, "n".toList]

theorem conforms_mixed : mixed.Conforms where
  shows path := by
    simp only [mixed, Assoc.get?]
    split
    · next h =>
        subst h
        exact .plain rfl rfl rfl
    · split
      · next h =>
          subst h
          exact .versioned rfl rfl rfl rfl rfl
      · exact .absent rfl
  readFault path f h := by
    simp only [mixed, Assoc.get?, Option.ite_none_right_eq_some] at h
    obtain ⟨-, ⟨⟩⟩ := h
    exact ⟨rfl, rfl⟩
  writeFault path f h := by
    simp only [mixed, Assoc.get?, Option.ite_none_right_eq_some] at h
    obtain ⟨-, ⟨⟩⟩ := h
    rfl

/-- Keys named like the parts of the versioned layout are set, a secret is created, and the two
faults are met. -/
def mixing : List Operation :=
  [.write "p".toList "data".toList "{}".toList, .read "r".toList "k".toList,
   .write "n".toList "metadata".toList "1".toList, .write "w".toList "k".toList "v".toList]

theorem perform_remote_eq_perform_memory_mixed :
    (∀ o' ∈ mixing ++ [.write "q".toList "data".toList "v".toList],
      o'.Suits mixed (some .versioned)) ∧
    ∃ s₁ store₁ received₁ answer s₂,
      performAll mixing (.remote ⟨mixed, some .versioned⟩) = .remote ⟨s₁, some .versioned⟩ ∧
      performAll (mixing.filter fun o => (o.failure? mixed).isNone) (.memory mixed.store []) =
        .memory store₁ received₁ ∧
      s₁.Conforms ∧ (∀ path key, s₁.value? path key = Assoc.get? (store₁.secret path) key) ∧
      (Operation.write "q".toList "data".toList "v".toList).perform
        (.remote ⟨s₁, some .versioned⟩) = (answer, .remote ⟨s₂, some .versioned⟩) ∧
      s₂.Conforms ∧
      ((Operation.write "q".toList "data".toList "v".toList).failure? mixed = none →
        answer = ((Operation.write "q".toList "data".toList "v".toList).perform
          (.memory store₁ received₁)).1 ∧
        ∀ path key, s₂.value? path key =
          ((Operation.write "q".toList "data".toList "v".toList).set? path key).or
            (s₁.value? path key)) ∧
      (∀ failure, (Operation.write "q".toList "data".toList "v".toList).failure? mixed =
          some failure → answer = .error failure ∧ s₂.responses = s₁.responses) ∧
      ((Assoc.get? mixed.readFaults "q".toList).isSome →
        s₂.received = s₁.received ++ [.read "q".toList]) := by
  have hsuits : ∀ o' ∈ mixing ++ [.write "q".toList "data".toList "v".toList],
      o'.Suits mixed (some .versioned) := by decide
  exact ⟨hsuits, perform_remote_eq_perform_memory conforms_mixed mixed.value?_eq_get?_store hsuits
    []⟩

end Vault

end InlineSecrets
