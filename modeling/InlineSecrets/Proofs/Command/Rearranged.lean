/-
**Secrets with structure are written in one way.**

A vault may answer with the entries of its mappings in any order, and in another one the next time.
What a reference stands for is the canonical text of what is found, in which there is no such order:
so it stays the same, and so do the inputs that it is rendered into.  A poller that renders them
again does not find that they have changed, however often and for however long it looks.

Main definitions:

* `InlineSecrets.Json.Rearranged` — a value, and the same one with its entries in another order;
* `InlineSecrets.Vault.Client.Rearranged` — **vaults whose answers differ in order only;**
* `InlineSecrets.Command.Move.Draws` — moves that render inputs from such vaults.

Main results:

* `InlineSecrets.Vault.fst_lookUp_of_rearranged` — references stand for the same texts;
* `InlineSecrets.Command.fst_render_of_rearranged` — inputs are rendered to the same;
* `InlineSecrets.Command.Supervision.hasChanged_of_rearranged` — they are never found changed;
* `InlineSecrets.Command.structured_secrets` — **the texts of secrets with structure;**
* `InlineSecrets.Command.stringify_torn` — values that these texts do not tell apart.
-/

import InlineSecrets.Proofs.Command.Restarting
import InlineSecrets.Proofs.Contents
import InlineSecrets.Proofs.Hiding
import InlineSecrets.Proofs.Json.Halves
import InlineSecrets.Proofs.Json.Reading

set_option relaxedAutoImplicit false
set_option autoImplicit false

namespace InlineSecrets

/-! ### Values in another order -/

namespace Json

variable {j j' : Json} {es es' : Assoc Text Json}

/-- A value in which no key is repeated, and the same value with its entries in another order. -/
structure Rearranged (j j' : Json) : Prop where
  proper : j.Proper
  reordered : j.Reordered j'

/-- Mappings with the same entries in another order. -/
def EntriesRearranged (es es' : Assoc Text Json) : Prop := (map es).Rearranged (map es')

namespace Rearranged

/-- **What is found at a key does not depend on the order of entries.** -/
theorem get?_entries (h : EntriesRearranged es es') (key : Text) :
    Option.Rel Rearranged (Assoc.get? es key) (Assoc.get? es' key) := by
  obtain ⟨hproper, hreordered⟩ := h
  cases hproper with
  | map hnodup hes =>
  cases hreordered with
  | map hkeys hvalues =>
      cases hv : Assoc.get? es key with
      | none =>
          rw [Assoc.get?_eq_none_iff, hkeys.mem_iff, ← Assoc.get?_eq_none_iff] at hv
          rw [hv]
          exact .none
      | some v =>
          have hmem := Assoc.mem_of_get? hv
          cases hv' : Assoc.get? es' key with
          | none =>
              rw [Assoc.get?_eq_none_iff, ← hkeys.mem_iff] at hv'
              exact absurd (List.mem_map_of_mem hmem) hv'
          | some v' => exact .some ⟨hes _ hmem, hvalues _ hmem _ (Assoc.mem_of_get? hv') rfl⟩

theorem entries? (h : j.Rearranged j') :
    Option.Rel EntriesRearranged j.entries? j'.entries? := by
  obtain ⟨hproper, hreordered⟩ := h
  cases hreordered with
  | null | bool | int | float | text | list => exact .none
  | map hkeys hvalues => exact .some ⟨hproper, .map hkeys hvalues⟩

theorem get? (h : j.Rearranged j') (key : Text) :
    Option.Rel Rearranged (j.get? key) (j'.get? key) :=
  rel_bind h.entries? fun hes => get?_entries hes key

theorem nonNull? (h : j.Rearranged j') : Option.Rel Rearranged j.nonNull? j'.nonNull? := by
  obtain ⟨hproper, hreordered⟩ := h
  cases hreordered with
  | null => exact .none
  | bool b => exact .some ⟨hproper, .bool b⟩
  | int i => exact .some ⟨hproper, .int i⟩
  | float x => exact .some ⟨hproper, .float x⟩
  | text t => exact .some ⟨hproper, .text t⟩
  | list hlength hitems => exact .some ⟨hproper, .list hlength hitems⟩
  | map hkeys hvalues => exact .some ⟨hproper, .map hkeys hvalues⟩

end Rearranged

/-- Whether a value is a text. -/
def isText : Json → Bool
  | text _ => true
  | _ => false

/-- Texts stand for themselves, all other values for their canonical texts. -/
theorem plainText_of_not_text (h : j.isText = false) : j.plainText = j.canonical := by
  cases j with
  | text t => cases h
  | null | bool | int | float | list | map => rfl

/-- **The text of a value does not show the order of its entries.** -/
theorem Rearranged.plainText_eq (h : j.Rearranged j') : j.plainText = j'.plainText := by
  obtain ⟨hproper, hreordered⟩ := h
  have hcanonical : j.canonical = j'.canonical := by
    rw [canonical_eq_write, canonical_eq_write, hreordered.arranged_eq hproper]
  cases hreordered with
  | text t => rfl
  | null | bool | int | float | list | map => exact hcanonical

end Json

/-! ### Vaults whose answers differ in order only -/

namespace Vault

open Json (EntriesRearranged)

namespace Connection

variable {c c' : Connection}

/-- Servers that answer and refuse the same paths, with answers that differ in order only. -/
structure Rearranged (c c' : Connection) : Prop where
  faults : ∀ path, Assoc.get? c.server.readFaults path = Assoc.get? c'.server.readFaults path
  responses : ∀ path, Option.Rel Json.Rearranged (Assoc.get? c.server.responses path)
    (Assoc.get? c'.server.responses path)

theorem Rearranged.data? (h : c.Rearranged c') (path : Text) :
    Together (Option.Rel EntriesRearranged) (fun _ _ => True) (c.data? path) (c'.data? path) := by
  cases hfault : Assoc.get? c.server.readFaults path with
  | none =>
      have hfault' := (h.faults path).symm.trans hfault
      simp only [Connection.data?, Server.read_of_served hfault, Server.read_of_served hfault']
      exact .ok (rel_bind (rel_bind (h.responses path) fun h => h.get? _) fun h => h.entries?)
        trivial
  | some f =>
      have hfault' := (h.faults path).symm.trans hfault
      simp only [Connection.data?, Server.read_of_fault hfault, Server.read_of_fault hfault']
      split
      · exact .ok .none trivial
      · exact .error f trivial

/-- **The value of a key does not depend on the order of entries,** in either layout. -/
theorem Rearranged.readKey (h : c.Rearranged c') (path key : Text) :
    Together (Option.Rel Json.Rearranged) (fun _ _ => True) (c.readKey path key)
      (c'.readKey path key) := by
  rcases (h.data? path).cases with
    ⟨data, data', c₁, c₁', hx, hx', hdata, -⟩ | ⟨f, c₁, c₁', hx, hx', -⟩
  · rcases rel_cases hdata with ⟨rfl, rfl⟩ | ⟨es, es', rfl, rfl, hes⟩
    · simp only [Connection.readKey, hx, hx']
      exact .ok .none trivial
    · have hinner := Layout.inner?_rel (fun h => Json.Rearranged.get?_entries h)
        (fun h => h.entries?) (fun h => h.nonNull?) hes
      have hsecret : EntriesRearranged ((Layout.inner? es).getD es)
          ((Layout.inner? es').getD es') := by
        rcases rel_cases hinner with ⟨hi, hi'⟩ | ⟨_, _, hi, hi', hinner⟩
        · rwa [hi, hi']
        · rwa [hi, hi']
      simp only [Connection.readKey, hx, hx']
      exact .ok (rel_bind (Json.Rearranged.get?_entries hsecret key) fun h => h.nonNull?) trivial
  · simp only [Connection.readKey, hx, hx']
    exact .error f trivial

end Connection

namespace Client

/-- **Vaults whose answers differ in order only:** stores in memory with the same keys, or
servers. -/
inductive Rearranged : Client → Client → Prop where
  | memory {store store' : Store} {received received' : List KeyRequest}
      (h : ∀ path key, Option.Rel Json.Rearranged (store.read? path key) (store'.read? path key)) :
      Rearranged (.memory store received) (.memory store' received')
  | remote {c c' : Connection} (h : c.Rearranged c') : Rearranged (.remote c) (.remote c')

variable {c c' d : Client}

theorem Rearranged.read (h : c.Rearranged c') (path key : Text) :
    Together (Option.Rel Json.Rearranged) (fun _ _ => True) (c.read path key)
      (c'.read path key) := by
  cases h with
  | memory h => exact .ok (h path key) trivial
  | remote h =>
      rcases (h.readKey path key).cases with
        ⟨v, v', c₁, c₁', hx, hx', hv, -⟩ | ⟨f, c₁, c₁', hx, hx', -⟩
      · simp only [Client.read, hx, hx']
        exact .ok hv trivial
      · simp only [Client.read, hx, hx']
        exact .error _ trivial

/-- It does not matter which requests a vault has received. -/
theorem Rearranged.of_contents_eq (h : c.Rearranged c') (hd : d.contents = c.contents) :
    d.Rearranged c' := by
  cases h with
  | memory h =>
      cases d with
      | memory store received =>
          cases hd
          exact .memory h
      | remote => cases hd
  | @remote c c' h =>
      cases d with
      | memory => cases hd
      | remote d =>
          have hserver : d.server.contents = c.server.contents :=
            congrArg Connection.server (Client.remote.inj hd)
          have hfaults : d.server.readFaults = c.server.readFaults :=
            (congrArg Server.readFaults hserver :)
          have hresponses : d.server.responses = c.server.responses :=
            (congrArg Server.responses hserver :)
          exact .remote ⟨hfaults ▸ h.faults, hresponses ▸ h.responses⟩

end Client

variable {c c' : Client}

/-- **References stand for the same texts.** -/
theorem fst_lookUp_of_rearranged (h : c.Rearranged c') (p : Text) :
    (lookUp p c).1 = (lookUp p c').1 := by
  rw [lookUp, lookUp]
  rcases parts 2 p with f | ps
  · rfl
  · rcases (h.read (ps.getD 0 []) (ps.getD 1 [])).cases with
      ⟨v, v', c₁, c₁', hx, hx', hv, -⟩ | ⟨f, c₁, c₁', hx, hx', -⟩
    · rcases rel_cases hv with ⟨rfl, rfl⟩ | ⟨u, u', rfl, rfl, hu⟩
      · simp only [hx, hx']
      · simp only [hx, hx', hu.plainText_eq]
    · simp only [hx, hx']

end Vault

/-! ### The same inputs -/

variable {w w' : World} {c : Vault.Client}

/-- What decoding makes of a payload does not depend on the order in which a vault answers. -/
theorem Family.fst_transform_of_rearranged {family : Family} {e : Engine World Cause}
    (he : family.engine? .decode = some e) (p : Text) (h : w.vault.Rearranged c)
    (h' : w'.vault.Rearranged c) : (e.transform p w).1 = (e.transform p w').1 := by
  cases family with
  | inline key =>
      cases he
      rfl
  | vault =>
      cases he
      have hlookUp := (Vault.fst_lookUp_of_rearranged h p).trans
        (Vault.fst_lookUp_of_rearranged h' p).symm
      exact congrArg (·.mapError Cause.vault) hlookUp

/-- Decoding leaves a vault whose answers differ from those of another one in order only. -/
theorem Tool.rearranged_run (tool : Tool) (wrapTokens : Bool) (t : Text)
    (h : w.vault.Rearranged c) : (tool.run .decode wrapTokens t w).2.vault.Rearranged c :=
  h.of_contents_eq (tool.contents_run (.inl rfl) wrapTokens t w)

/-- **Decoding does not depend on the order in which a vault answers.** -/
theorem Tool.fst_run_of_rearranged (tool : Tool) (wrapTokens : Bool) (t : Text)
    (h : w.vault.Rearranged c) (h' : w'.vault.Rearranged c) :
    (tool.run .decode wrapTokens t w).1 = (tool.run .decode wrapTokens t w').1 :=
  fst_run_of_invariant (I := fun w => w.vault.Rearranged c)
    (fun he p _ _ hs hs' => Family.fst_transform_of_rearranged he p hs hs')
    (fun he p _ hs => hs.of_contents_eq (Family.contents_transform he (.inl rfl) p _))
    tool wrapTokens t h h'

namespace Command

/-- Where the results of a replacer do not depend on the state, as long as `I` holds of it, those of
rendering do not. -/
theorem fst_render {σ ε : Type} {replacer : Text → σ → Except ε Text × σ} {I : σ → Prop}
    (hsame : ∀ t {s s'}, I s → I s' → (replacer t s).1 = (replacer t s').1)
    (hkeeps : ∀ t {s}, I s → I (replacer t s).2) (given : Inputs) {s s' : σ} (hs : I s)
    (hs' : I s') : (render replacer given s).1 = (render replacer given s').1 := by
  have hreveal : (reveal replacer given.env s).1 = (reveal replacer given.env s').1 := by
    induction given.env generalizing s s' with
    | nil => rfl
    | cons e es ih =>
        have hkept := hkeeps e hs
        have hkept' := hkeeps e hs'
        obtain ⟨answer, s₁, s₂, hanswer, hanswer'⟩ := exists_of_fst_eq (hsame e hs hs')
        rw [hanswer] at hkept
        rw [hanswer'] at hkept'
        rw [reveal, reveal, hanswer, hanswer']
        cases answer with
        | error cause => rfl
        | ok t => exact congrArg ((t :: ·) <$> ·) (ih hkept hkept')
  exact congrArg (Functor.map _) hreveal

/-- **Inputs are rendered to the same,** in whichever order a vault answers. -/
theorem fst_render_of_rearranged (tool : Tool) (wrapTokens : Bool) (given : Inputs)
    (h : w.vault.Rearranged c) (h' : w'.vault.Rearranged c) :
    (render (tool.run .decode wrapTokens) given w).1 =
      (render (tool.run .decode wrapTokens) given w').1 :=
  fst_render (I := fun w => w.vault.Rearranged c)
    (fun t _ _ hs hs' => tool.fst_run_of_rearranged wrapTokens t hs hs')
    (fun t _ hs => tool.rearranged_run wrapTokens t hs) given h h'

/-! ### Runs with vaults whose answers differ in order only -/

/-- The inputs, rendered with decoding for replacing. -/
abbrev decoded (tool : Tool) (wrapTokens : Bool) (given : Inputs) (w : World) :
    Except RenderFault Inputs := (render (tool.run .decode wrapTokens) given w).1

/-- A move in which the inputs of a child are rendered, if they are, with a vault whose answers
differ from those of another one in order only. -/
def Move.Draws (tool : Tool) (wrapTokens : Bool) (given : Inputs) (c : Vault.Client) : Move → Prop
  | .run (.render result) =>
      ∃ w : World, w.vault.Rearranged c ∧ result = decoded tool wrapTokens given w
  | _ => True

/-- A request does not change the inputs that a runner is at work with. -/
theorem Runner.RunsOn.requested {r : Runner} {a : Inputs} (hr : r.RunsOn a) (q : Request) :
    (r.requested q).RunsOn a := by
  unfold Runner.requested
  split
  · exact ⟨hr.phase, hr.recorded⟩
  · exact hr

namespace Supervision

variable {s s' s₀ : Supervision} {m : Move} {ms : List Move} {a : Inputs}

/-- **All inputs that a runner is at work with stay the same,** as long as no others are
rendered. -/
theorem runsOn_of_effect (hc : s.caller ≠ .absent) (hr : s.runner.RunsOn a)
    (hm : ∀ i, m = .run (.render (.ok i)) → i = a) (h : Effect s m s') : s'.runner.RunsOn a := by
  cases h with
  | @run step r' _ _ h =>
      refine hr.transition h ?_
      rintro i rfl
      exact hm i rfl
  | @poll wake rendered =>
      rcases (s.afterPoll_cases (s.runner.hasChanged rendered)).1 with heq | ⟨q, heq⟩
      · rw [heq]
        exact hr
      · rw [heq]
        exact hr.requested q
  | receiveDrift | interruptWait => exact hr.requested .stop
  | interruptRun habsent => exact absurd habsent hc
  | quit | report | receiveEnd | join | abandon | interruptJoin => exact hr

theorem runsOn_of_moves? (hc : s.caller ≠ .absent) (hr : s.runner.RunsOn a)
    (hrender : ∀ m ∈ ms, ∀ i, m = .run (.render (.ok i)) → i = a)
    (hms : s.moves? ms = some s') : s'.runner.RunsOn a := by
  have hboth : s'.caller ≠ .absent ∧ s'.runner.RunsOn a := by
    refine invariant_of_mem_moves? (P := fun s => s.caller ≠ .absent ∧ s.runner.RunsOn a) ?_ hms
      ⟨hc, hr⟩
    rintro s m s' hm ⟨hc, hr⟩ h
    exact ⟨h.caller_ne_absent hc, runsOn_of_effect hc hr (hrender m hm) h⟩
  exact hboth.2

/-- **Answers in another order are never seen as a change.**  Whatever else happens in a supervised
run, and whenever in it the inputs are rendered again: if all vaults from which they were rendered
for a child and are rendered now answer alike but for the order of entries, the inputs are not found
to have changed. -/
theorem hasChanged_of_rearranged (tool : Tool) (wrapTokens : Bool) {r : Runner}
    {polling : Polling} {c : Vault.Client} (hr : r.Reachable)
    (h₀ : supervised? r polling = some s₀)
    (hdraws : ∀ m ∈ ms, m.Draws tool wrapTokens r.given c) (hms : s₀.moves? ms = some s)
    {w : World} (hw : w.vault.Rearranged c) :
    s.runner.hasChanged (decoded tool wrapTokens r.given w) = .ok false := by
  have hrendered : ∀ m ∈ ms, ∀ i, m = .run (.render (.ok i)) →
      decoded tool wrapTokens r.given w = .ok i := by
    rintro m hm i rfl
    obtain ⟨w', hw', heq⟩ := hdraws _ hm
    exact (fst_render_of_rearranged tool wrapTokens r.given hw hw').trans heq.symm
  have hruns : ∀ a, (∀ i, decoded tool wrapTokens r.given w = .ok i → i = a) →
      s.runner.RunsOn a := by
    intro a ha
    obtain ⟨hs₀, hsettled⟩ := settled_of_supervised? hr h₀ a
    exact runsOn_of_moves? hs₀.caller_ne hsettled.runsOn
      (fun m hm i hi => ha i (hrendered m hm i hi)) hms
  unfold Runner.hasChanged
  split
  · rfl
  · next n i hrecorded =>
      cases hresult : decoded tool wrapTokens r.given w with
      | ok a =>
          have hruns := hruns a fun j hj => Except.ok.inj (hj.symm.trans hresult)
          obtain rfl := hruns.recorded n i hrecorded
          simp [Functor.map, Except.map, Inputs.differsFrom_self]
      | error f =>
          -- no inputs were rendered, so none are recorded
          have hall : ∀ a, i = a := fun a =>
            (hruns a fun j hj => nomatch hj.symm.trans hresult).recorded n i hrecorded
          have hname := congrArg (·.name.length) (hall ⟨'=' :: i.name, i.args, i.env⟩)
          simp at hname

end Supervision

/-! ### Secrets with structure -/

open Supervision (newRunner supervised?)

/-- **Secrets with structure are written in one way.**  A value of characters has a text, unless
there are integers in it that are too long to be written.  The text of a value that is no text
itself does not show the order in which the entries of its mappings stand, at any depth.  It is in
ASCII, without control characters, and there are no blanks outside its strings.  If there are no
doubles in the value, the text denotes the value, up to that order, and no two values that differ in
more than that have the same text.  So a vault that answers with the same entries in another order
is never found to have changed the inputs of a command. -/
theorem structured_secrets :
    (∀ j : Json, j.fits = true →
      (j.mapTexts Codes.ofText).stringify = .ok (Codes.ofText j.plainText)) ∧
    (∀ j j' : Json, j.Rearranged j' → j.plainText = j'.plainText) ∧
    (∀ j : Json, j.isText = false → (∀ c ∈ j.plainText, ' ' ≤ c ∧ c.toNat < 0x80) ∧
      ∀ c ∈ Json.outside j.plainText, Text.isBlank c = false) ∧
    (∀ j : Json, j.isText = false → j.FloatFree → j.Proper →
      ∃ j', Json.read? j.plainText = some j' ∧ j.Rearranged j') ∧
    (∀ j j' : Json, j.isText = false → j'.isText = false → j.FloatFree → j'.FloatFree →
      j.Proper → j'.Proper → (j.plainText = j'.plainText ↔ j.Reordered j')) ∧
    ∀ (tool : Tool) (wrapTokens : Bool) (r : Runner) (polling : Polling) (c : Vault.Client)
      (s₀ s : Supervision) (ms : List Move) (w : World), r.Reachable →
      supervised? r polling = some s₀ →
      (∀ m ∈ ms, m.Draws tool wrapTokens r.given c) → s₀.moves? ms = some s →
      w.vault.Rearranged c →
      s.runner.hasChanged (decoded tool wrapTokens r.given w) = .ok false := by
  refine ⟨fun j h => Json.stringify_ofTexts h, fun j j' h => h.plainText_eq, ?_, ?_, ?_, ?_⟩
  · intro j hj
    rw [Json.plainText_of_not_text hj]
    exact j.canonical_ascii
  · intro j hj hfree hproper
    rw [Json.plainText_of_not_text hj]
    exact ⟨_, Json.read?_canonical hfree hproper, hproper, Json.reordered_arranged hproper⟩
  · intro j j' hj hj' hfree hfree' hproper hproper'
    rw [Json.plainText_of_not_text hj, Json.plainText_of_not_text hj',
      ← Json.arranged_eq_iff hproper hproper']
    constructor
    · intro heq
      have hread := Json.read?_canonical hfree hproper
      rw [heq, Json.read?_canonical hfree' hproper'] at hread
      exact (Option.some.inj hread).symm
    · intro heq
      rw [Json.canonical_eq_write, heq, ← Json.canonical_eq_write]
  · intro tool wrapTokens r polling c s₀ s ms w hr h₀ hdraws hms hw
    exact Supervision.hasChanged_of_rearranged tool wrapTokens hr h₀ hdraws hms hw

/-- A secret with two entries. -/
def options : Json :=
  .map [("b".toList, .list [.int 1, .null]), ("a".toList, .text "é \n".toList)]

/-- The same secret in another order. -/
def optionsSwapped : Json :=
  .map [("a".toList, .text "é \n".toList), ("b".toList, .list [.int 1, .null])]

/-- A vault with one secret. -/
def keepingSecret (j : Json) : World :=
  ⟨⟨fun _ n => Vector.replicate n 0, 0⟩, .memory [("p".toList, [("k".toList, j)])] []⟩

/-- Vaults with one secret each differ in order only if the secrets do. -/
theorem rearranged_keepingSecret {j j' : Json} (h : j.Rearranged j') :
    (keepingSecret j).vault.Rearranged (keepingSecret j').vault := by
  refine .memory fun path key => ?_
  have hread : ∀ j : Json, Vault.Store.read? [("p".toList, [("k".toList, j)])] path key =
      if "p".toList = path ∧ "k".toList = key then j.nonNull? else none :=
    fun j => Vault.Store.read?_write [] "p".toList "k".toList j path key
  rw [hread, hread]
  split
  · exact h.nonNull?
  · exact .none

/-- A child is started with the secret in its environment, and a second passes. -/
def untilAsked : List Move :=
  [.run (.render (decoded (Tool.ofParts none true) false (newRunner usualGrace).given
    (keepingSecret options))), .run (.start (.ok ())), .run .record, .run (.tick 1)]

theorem structured_secrets_swapped :
    (options.mapTexts Codes.ofText).stringify = .ok (Codes.ofText options.plainText) ∧
    options.Rearranged optionsSwapped ∧ options.plainText = optionsSwapped.plainText ∧
    (∀ c ∈ options.plainText, ' ' ≤ c ∧ c.toNat < 0x80) ∧
    (∃ j', Json.read? options.plainText = some j' ∧ options.Rearranged j') ∧
    (options.plainText = optionsSwapped.plainText ↔ options.Reordered optionsSwapped) ∧
    ∃ s₀ s, supervised? (newRunner usualGrace) ⟨.restart, .ofInt 1⟩ = some s₀ ∧
      s₀.moves? untilAsked = some s ∧ s.runner.isRunning = true ∧
      s.runner.hasChanged (decoded (Tool.ofParts none true) false (newRunner usualGrace).given
        (keepingSecret optionsSwapped)) = .ok false := by
  have hlist : (.list [.int 1, .null] : Json).Proper ∧ (.list [.int 1, .null] : Json).FloatFree :=
    ⟨.list (List.forall_mem_cons.2 ⟨.int 1, List.forall_mem_cons.2 ⟨.null, nofun⟩⟩),
      .list (List.forall_mem_cons.2 ⟨.int 1, List.forall_mem_cons.2 ⟨.null, nofun⟩⟩)⟩
  have hproper : options.Proper := .map (by decide)
    (List.forall_mem_cons.2 ⟨hlist.1, List.forall_mem_cons.2 ⟨.text _, nofun⟩⟩)
  have hproper' : optionsSwapped.Proper := .map (by decide)
    (List.forall_mem_cons.2 ⟨.text _, List.forall_mem_cons.2 ⟨hlist.1, nofun⟩⟩)
  have hfree : options.FloatFree :=
    .map (List.forall_mem_cons.2 ⟨hlist.2, List.forall_mem_cons.2 ⟨.text _, nofun⟩⟩)
  have hfree' : optionsSwapped.FloatFree :=
    .map (List.forall_mem_cons.2 ⟨.text _, List.forall_mem_cons.2 ⟨hlist.2, nofun⟩⟩)
  have hsame : optionsSwapped.Rearranged options :=
    ⟨hproper', Json.reordered_of_arranged_eq hproper' hproper rfl⟩
  have hsame' : options.Rearranged optionsSwapped :=
    ⟨hproper, Json.reordered_of_arranged_eq hproper hproper' rfl⟩
  have hself : options.Rearranged options :=
    ⟨hproper, Json.reordered_of_arranged_eq hproper hproper rfl⟩
  have hfits : options.fits = true := by decide +kernel
  obtain ⟨hwritten, htext, hascii, hread, hdiffer, hchanged⟩ := structured_secrets
  have hsome : (((supervised? (newRunner usualGrace) ⟨.restart, .ofInt 1⟩).bind
      (Supervision.moves? untilAsked)).any fun s => s.runner.isRunning) = true := by decide +kernel
  obtain ⟨s₀, s, h₀, hms, hrunning⟩ := Supervision.exists_run_of_any hsome
  have hdraws : ∀ m ∈ untilAsked, m.Draws (Tool.ofParts none true) false
      (newRunner usualGrace).given (keepingSecret options).vault := by
    refine List.forall_mem_cons.2 ⟨⟨_, rearranged_keepingSecret hself, rfl⟩, ?_⟩
    simp [Move.Draws]
  exact ⟨hwritten _ hfits, hsame', htext _ _ hsame', (hascii _ rfl).1, hread _ rfl hfree hproper,
    hdiffer _ _ rfl rfl hfree hfree' hproper hproper', s₀, s, h₀, hms, hrunning,
    hchanged _ _ _ _ _ _ _ _ _ (Supervision.reachable_newRunner usualGrace) h₀ hdraws hms
      (rearranged_keepingSecret hsame)⟩

/-- A list with both halves of a character in one text. -/
def tornPair : Json Codes := .list [.text [0xD83D, 0xDE00]]

/-- A list with that character. -/
def joinedPair : Json Codes := .list [.text [0x1F600]]

/-- A list with an integer that is one digit too long. -/
def longInteger : Json Codes := .list [.int (10 ^ Text.digitLimit)]

/-- **Halves of characters, and integers of any length, are not written in one way.**  A list in
which the halves of a character meet and the list with this character have the same text, which
denotes the one with the character; and a list with an integer that is too long has no text. -/
theorem stringify_torn :
    (tornPair.Proper ∧ tornPair.FloatFree) ∧ (joinedPair.Proper ∧ joinedPair.FloatFree) ∧
    ¬tornPair.Reordered joinedPair ∧
    tornPair.stringify = .ok (Codes.ofText "[\"\\ud83d\\ude00\"]".toList) ∧
    joinedPair.stringify = .ok (Codes.ofText "[\"\\ud83d\\ude00\"]".toList) ∧
    Json.read? "[\"\\ud83d\\ude00\"]".toList = some (.list [.text ['😀']]) ∧
    (longInteger.Proper ∧ longInteger.FloatFree) ∧
    longInteger.stringify = .error .tooManyDigits := by
  have hlist : ∀ j : Json Codes, j.Proper ∧ j.FloatFree →
      (.list [j] : Json Codes).Proper ∧ (.list [j] : Json Codes).FloatFree := fun j hj =>
    ⟨.list (List.forall_mem_singleton.2 hj.1), .list (List.forall_mem_singleton.2 hj.2)⟩
  have htext : ∀ t : Codes, (.text t : Json Codes).Proper ∧ (.text t : Json Codes).FloatFree :=
    fun t => ⟨.text t, .text t⟩
  refine ⟨hlist _ (htext _), hlist _ (htext _), fun h => ?_, rfl, by decide +kernel, rfl,
    hlist _ ⟨.int _, .int _⟩, ?_⟩
  · -- the first items of the lists are not the same text
    cases h with
    | list _ h => cases h 0 _ _ rfl rfl
  · have hlong : longInteger.fits = false := by
      rw [longInteger, Json.fits_list, List.all_cons, Json.fits, Int.natAbs_pow]
      simp
    exact Json.stringify_of_not_fits hlong

end Command

end InlineSecrets
