/-
**What is revealed depends on the contents of the vault only.**

The two ways back open what is sealed, for which they ask nothing but the key, and look references
up.  A vault answers a lookup from its contents, and keeps these as they are: only the record of the
requests that it has received changes.  So what a text is revealed to does not depend on what was
revealed before, and as little on the random bytes that have been drawn.

Main results:

* `InlineSecrets.Vault.fst_lookUp_of_contents_eq`, `InlineSecrets.Vault.contents_lookUp` — lookups;
* `InlineSecrets.Splicing.fst_spliceEach` — splicing where the state does not matter;
* `InlineSecrets.Tool.contents_run` — the two ways back keep the contents as they are;
* `InlineSecrets.Tool.fst_run_of_contents_eq` — **what is revealed depends on the contents only.**
-/

import InlineSecrets.Proofs.Failing
import InlineSecrets.Proofs.Pipeline

set_option relaxedAutoImplicit false
set_option autoImplicit false

namespace InlineSecrets

/-- Two outcomes that agree but for the state. -/
theorem exists_of_fst_eq {α σ : Type} {x y : α × σ} (h : x.1 = y.1) :
    ∃ r s s', x = (r, s) ∧ y = (r, s') := ⟨x.1, x.2, y.2, rfl, Prod.ext h.symm rfl⟩

/-! ### Lookups -/

namespace Vault

namespace Server

/-- A server answers from its contents. -/
theorem fst_read_contents (s : Server) (path : Text) :
    (s.contents.read path).1 = (s.read path).1 := by
  rw [read, read, show s.contents.readFaults = s.readFaults from rfl,
    show s.contents.responses = s.responses from rfl]
  split <;> rfl

end Server

namespace Connection

variable (c : Connection) (path key : Text)

theorem fst_data?_contents : (c.contents.data? path).1 = (c.data? path).1 := by
  obtain ⟨answer, s', s, hanswer', hanswer⟩ :=
    exists_of_fst_eq (c.server.fst_read_contents path)
  simp only [data?, hanswer, show c.contents.server = c.server.contents from rfl, hanswer']
  cases answer with
  | ok response => rfl
  | error f => by_cases hf : f.isAbsence <;> simp only [hf] <;> rfl

theorem readKey_eq : c.readKey path key =
    ((c.data? path).1.map fun data => data.bind fun data =>
      (Assoc.get? ((Layout.inner? data).getD data) key).bind Json.nonNull?, (c.data? path).2) := by
  rw [readKey]
  rcases c.data? path with ⟨f | _ | data, c'⟩ <;> rfl

end Connection

namespace Client

/-- A client answers from its contents. -/
theorem fst_read_contents (c : Client) (path key : Text) :
    (c.contents.read path key).1 = (c.read path key).1 := by
  cases c with
  | memory store received => rfl
  | remote c =>
      simp only [contents, read, Connection.readKey_eq, Connection.fst_data?_contents]

/-- Reading keeps the contents as they are. -/
theorem contents_read (c : Client) (path key : Text) :
    (c.read path key).2.contents = c.contents := by
  cases c with
  | memory store received => rfl
  | remote c =>
      simp only [contents, read, Connection.readKey_eq, Connection.contents_data?]

end Client

/-- **What a reference refers to** is found in the contents. -/
theorem fst_lookUp_contents (p : Text) (c : Client) :
    (lookUp p c.contents).1 = (lookUp p c).1 := by
  rw [lookUp, lookUp]
  rcases parts 2 p with f | ps
  · rfl
  · obtain ⟨answer, c₁, c₂, hanswer', hanswer⟩ :=
      exists_of_fst_eq (c.fst_read_contents (ps.getD 0 []) (ps.getD 1 []))
    simp only [hanswer, hanswer']
    rcases answer with f | _ | v <;> rfl

theorem fst_lookUp_of_contents_eq {c c' : Client} (h : c.contents = c'.contents) (p : Text) :
    (lookUp p c).1 = (lookUp p c').1 := by
  rw [← fst_lookUp_contents, h, fst_lookUp_contents]

/-- **Lookups keep the contents as they are.** -/
theorem contents_lookUp (p : Text) (c : Client) : (lookUp p c).2.contents = c.contents := by
  rw [lookUp]
  rcases parts 2 p with f | ps
  · rfl
  · have hread := c.contents_read (ps.getD 0 []) (ps.getD 1 [])
    rcases hanswer : c.read (ps.getD 0 []) (ps.getD 1 []) with ⟨f | _ | v, c'⟩ <;>
      rw [hanswer] at hread <;> simpa only [hanswer] using hread

end Vault

/-! ### Where the state does not matter -/

namespace Splicing

variable {σ ε : Type} {f : Transform σ ε} {place : Placing} {I : σ → Prop}

/-- Where the results of a transformation do not depend on the state, as long as `I` holds of it,
those of splicing do not. -/
theorem fst_spliceEach (hf : ∀ p {s s'}, I s → I s' → (f p s).1 = (f p s').1)
    (hkeeps : ∀ p {s}, I s → I (f p s).2) (ks : List Span) (t : Text) {s s' : σ} (hs : I s)
    (hs' : I s') : (spliceEach f place ks t s).1 = (spliceEach f place ks t s').1 := by
  induction ks generalizing t s s' with
  | nil => rfl
  | cons k ks ih =>
      have hkept := hkeeps (k.payload t) hs
      have hkept' := hkeeps (k.payload t) hs'
      obtain ⟨answer, s₁, s₂, hanswer, hanswer'⟩ := exists_of_fst_eq (hf (k.payload t) hs hs')
      rw [hanswer] at hkept
      rw [hanswer'] at hkept'
      rw [spliceEach, spliceEach, hanswer, hanswer']
      rcases answer with c | r
      · rfl
      · exact ih _ hkept hkept'

end Splicing

/-- The same for the effect of an engine. -/
theorem Engine.fst_run {σ ε : Type} {e : Engine σ ε} {wrapTokens : Bool} {place : Splicing.Placing}
    {I : σ → Prop} (hplace : e.placing? wrapTokens = some place)
    (hf : ∀ p {s s'}, I s → I s' → (e.transform p s).1 = (e.transform p s').1)
    (hkeeps : ∀ p {s}, I s → I (e.transform p s).2) (t : Text) {s s' : σ} (hs : I s) (hs' : I s') :
    (e.run wrapTokens t s).1 = (e.run wrapTokens t s').1 := by
  rw [run_of_placing? hplace, run_of_placing? hplace]
  cases e.locate t with
  | error cause => rfl
  | ok ks =>
      have hsame : (Splicing.spliceBack e.transform place ks t s).1 =
          (Splicing.spliceBack e.transform place ks t s').1 :=
        Splicing.fst_spliceEach hf hkeeps ks.reverse t hs hs'
      obtain ⟨answer, s₁, s₂, hanswer, hanswer'⟩ := exists_of_fst_eq hsame
      simp only [splice, hanswer, hanswer']
      cases answer <;> rfl

/-! ### The two ways back -/

namespace Tool

/-- Engines whose results do not depend on the state yield results that do not depend on it. -/
theorem fst_runEngines {I : World → Prop} {wrapTokens : Bool} {es : List (Engine World Cause)}
    (hes : ∀ e ∈ es, ∀ t {w w'}, I w → I w' → (e.run wrapTokens t w).1 = (e.run wrapTokens t w').1)
    (hkeeps : ∀ e ∈ es, ∀ t {w}, I w → I (e.run wrapTokens t w).2) (t : Text) {w w' : World}
    (hw : I w) (hw' : I w') :
    (runEngines wrapTokens es t w).1 = (runEngines wrapTokens es t w').1 := by
  induction es generalizing t w w' with
  | nil => rfl
  | cons e es ih =>
      obtain ⟨he, hes⟩ := List.forall_mem_cons.1 hes
      obtain ⟨hkeep, hkeeps⟩ := List.forall_mem_cons.1 hkeeps
      have hkept := hkeep t hw
      have hkept' := hkeep t hw'
      obtain ⟨answer, w₁, w₂, hanswer, hanswer'⟩ := exists_of_fst_eq (he t hw hw')
      rw [hanswer] at hkept
      rw [hanswer'] at hkept'
      rw [runEngines, runEngines, hanswer, hanswer']
      rcases answer with f | u
      · rfl
      · exact ih hes hkeeps u hkept hkept'

end Tool

namespace Family

variable {family : Family} {a : Action} {e : Engine World Cause}

/-- What the ways back make of a payload depends on the contents of the vault only. -/
theorem fst_transform_of_contents_eq (he : family.engine? a = some e)
    (ha : a = .decode ∨ a = .unredact) (p : Text) {w w' : World}
    (h : w.vault.contents = w'.vault.contents) : (e.transform p w).1 = (e.transform p w').1 := by
  cases family with
  | inline key => rcases ha with rfl | rfl <;> cases he <;> rfl
  | vault =>
      have hlookUp := congrArg (·.mapError Cause.vault) (Vault.fst_lookUp_of_contents_eq h p)
      rcases ha with rfl | rfl <;> cases he <;> exact hlookUp

theorem contents_transform (he : family.engine? a = some e) (ha : a = .decode ∨ a = .unredact)
    (p : Text) (w : World) : (e.transform p w).2.vault.contents = w.vault.contents := by
  cases family with
  | inline key => rcases ha with rfl | rfl <;> cases he <;> rfl
  | vault => rcases ha with rfl | rfl <;> cases he <;> exact Vault.contents_lookUp p w.vault

end Family

namespace Tool

variable {a : Action} {c : Vault.Client}

/-- The engines of the two ways back keep the contents of the vault as they are. -/
theorem contents_run_engine {tool : Tool} {e : Engine World Cause} (he : e ∈ tool.engines a)
    (ha : a = .decode ∨ a = .unredact) (wrapTokens : Bool) (t : Text) {w : World}
    (hw : w.vault.contents = c) : (e.run wrapTokens t w).2.vault.contents = c := by
  obtain ⟨family, -, he⟩ := List.mem_filterMap.1 he
  obtain ⟨place, hplace⟩ := family.exists_placing? he wrapTokens
  exact Engine.keeps_run_of_placing? (I := fun w => w.vault.contents = c) hplace
    (fun p w' hw' => (Family.contents_transform he ha p w').trans hw') t hw

/-- **The two ways back keep the contents of the vault as they are.** -/
theorem contents_run (tool : Tool) (ha : a = .decode ∨ a = .unredact) (wrapTokens : Bool) (t : Text)
    (w : World) : (tool.run a wrapTokens t w).2.vault.contents = w.vault.contents :=
  keeps_runEngines (I := fun w' => w'.vault.contents = w.vault.contents)
    (fun _ he t _ hw => contents_run_engine he ha wrapTokens t hw) t rfl

/-- Where what an action makes of payloads does not depend on the state, as long as `I` holds of it,
its effect on texts does not. -/
theorem fst_run_of_invariant {I : World → Prop}
    (hsame : ∀ {family : Family} {e : Engine World Cause}, family.engine? a = some e →
      ∀ p {w w'}, I w → I w' → (e.transform p w).1 = (e.transform p w').1)
    (hkeeps : ∀ {family : Family} {e : Engine World Cause}, family.engine? a = some e →
      ∀ p {w}, I w → I (e.transform p w).2)
    (tool : Tool) (wrapTokens : Bool) (t : Text) {w w' : World} (hw : I w) (hw' : I w') :
    (tool.run a wrapTokens t w).1 = (tool.run a wrapTokens t w').1 := by
  refine fst_runEngines ?_ ?_ t hw hw'
  · intro e he t w₁ w₂ hw₁ hw₂
    obtain ⟨family, -, he⟩ := List.mem_filterMap.1 he
    obtain ⟨place, hplace⟩ := family.exists_placing? he wrapTokens
    exact Engine.fst_run hplace (hsame he) (hkeeps he) t hw₁ hw₂
  · intro e he t w hw
    obtain ⟨family, -, he⟩ := List.mem_filterMap.1 he
    obtain ⟨place, hplace⟩ := family.exists_placing? he wrapTokens
    exact Engine.keeps_run_of_placing? hplace (fun p w hw => hkeeps he p hw) t hw

/-- **What a text is revealed to depends on the contents of the vault only.** -/
theorem fst_run_of_contents_eq (tool : Tool) (ha : a = .decode ∨ a = .unredact)
    (wrapTokens : Bool) (t : Text) {w w' : World} (h : w.vault.contents = w'.vault.contents) :
    (tool.run a wrapTokens t w).1 = (tool.run a wrapTokens t w').1 :=
  fst_run_of_invariant (I := fun w => w.vault.contents = w'.vault.contents)
    (fun he p _ _ hs hs' => Family.fst_transform_of_contents_eq he ha p (hs.trans hs'.symm))
    (fun he p _ hs => (Family.contents_transform he ha p _).trans hs) tool wrapTokens t h rfl

end Tool

end InlineSecrets
