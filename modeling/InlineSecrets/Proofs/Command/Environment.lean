/-
**The environment of a command is decoded value by value.**

A command is run with entries `NAME=value`, and decoding is applied to each of them as a whole.  No
token begins in a name or is kept from beginning by it, and each entry is decoded with the contents
of the vault that the one before it has left, which are those that there were.  So a variable has
the value that its value alone decodes to, whatever signs or line breaks that holds, since the name
ends at the first equality sign of the entry.

Main definitions:

* `InlineSecrets.Command.entry` — the entry for a variable.

Main results:

* `InlineSecrets.Command.environmentMap_map_entry` — entries for different variables are read back;
* `InlineSecrets.Engine.Failure.message_shift` — where payloads are public, the wording of a failure
  does not depend on where the token stands;
* `InlineSecrets.Command.reveal_cases` — what becomes of the entries;
* `InlineSecrets.Command.render_decode` — **the environment is decoded value by value.**
-/

import InlineSecrets.Command.Inputs
import InlineSecrets.Proofs.Basic
import InlineSecrets.Proofs.Contents
import InlineSecrets.Proofs.Prefixed

set_option relaxedAutoImplicit false
set_option autoImplicit false

namespace InlineSecrets

/-! ### Reading entries back -/

namespace Command

/-- The entry that sets a variable to a value. -/
def entry (v : Text × Text) : Text := v.1 ++ '=' :: v.2

/-- An entry is cut at the end of the name, whatever the value. -/
theorem cut?_entry {v : Text × Text} (h : '=' ∉ v.1) : (entry v).cut? '=' = some v :=
  Text.cut?_eq_some_iff.2 ⟨rfl, h⟩

theorem entryName_entry {v : Text × Text} (h : '=' ∉ v.1) : entryName (entry v) = v.1 := by
  rw [entryName, cut?_entry h]
  rfl

/-- **Entries for different variables are read back.** -/
theorem environmentMap_map_entry {vars : Assoc Text Text} (hnames : ∀ v ∈ vars, '=' ∉ v.1)
    (hdistinct : vars.keys.Nodup) : environmentMap (vars.map entry) = vars := by
  have hcut : (vars.map entry).filterMap (fun e => e.cut? '=') = vars := by
    rw [List.filterMap_map]
    exact (List.filterMap_congr fun v hv => cut?_entry (hnames v hv)).trans List.filterMap_some
  rw [environmentMap, hcut, Assoc.ofEntries_of_nodup hdistinct]

end Command

/-! ### Failures further on -/

namespace Engine

variable {σ ε : Type}

/-- Where payloads are public, a failure does not tell where the token stands. -/
theorem Failure.message_shift {f : Failure ε}
    (h : ∀ action family payload offset cause,
      f = .transforming action family payload offset cause → action.showsPayload = true)
    (n : Nat) (wording : ε → String) : (f.shift n).message wording = f.message wording := by
  cases f with
  | locating family cause => rfl
  | unwrapped action family => rfl
  | transforming action family payload offset cause =>
      simp only [shift, message, h _ _ _ _ _ rfl, if_true]

/-- An engine fails with its own action. -/
theorem action_eq_of_run_eq_error {e : Engine σ ε} {wrapTokens : Bool} {place : Splicing.Placing}
    (hplace : e.placing? wrapTokens = some place) {t : Text} {s s' : σ} {f : Failure ε}
    (h : e.run wrapTokens t s = (.error f, s')) {action : Action} {family payload : Text}
    {offset : Int} {cause : ε} (hf : f = .transforming action family payload offset cause) :
    action = e.action := by
  rw [run_of_placing? hplace] at h
  cases hlocate : e.locate t with
  | error c =>
      rw [hlocate] at h
      obtain rfl := Except.error.inj (Prod.mk.inj h).1
      cases hf
  | ok ks =>
      rw [hlocate] at h
      dsimp only [splice] at h
      rcases hsplice : Splicing.spliceBack e.transform place ks t s with ⟨x | u, s₁⟩
      · rw [hsplice] at h
        obtain rfl := Except.error.inj (Prod.mk.inj h).1
        cases hf
        rfl
      · rw [hsplice] at h
        cases h

end Engine

namespace Tool

/-- Engines fail where one of them fails. -/
theorem exists_of_runEngines_eq_error {wrapTokens : Bool} {es : List (Engine World Cause)}
    {t : Text} {w w' : World} {f : Engine.Failure Cause}
    (h : runEngines wrapTokens es t w = (.error f, w')) :
    ∃ e ∈ es, ∃ u w₁, e.run wrapTokens u w₁ = (.error f, w') := by
  induction es generalizing t w with
  | nil => cases h
  | cons e es ih =>
      rw [runEngines] at h
      rcases hrun : e.run wrapTokens t w with ⟨f' | u, w₁⟩
      · rw [hrun] at h
        cases h
        exact ⟨e, List.mem_cons_self, t, w, hrun⟩
      · rw [hrun] at h
        obtain ⟨e', he', hfails⟩ := ih h
        exact ⟨e', List.mem_cons_of_mem e he', hfails⟩

/-- **Decoding does not tell where the token stands** that it failed for. -/
theorem message_shift_of_run {tool : Tool} {wrapTokens : Bool} {t : Text} {w : World}
    {f : Engine.Failure Cause} (h : (tool.run .decode wrapTokens t w).1 = .error f) (n : Nat)
    (wording : Cause → String) : (f.shift n).message wording = f.message wording := by
  refine Engine.Failure.message_shift (fun action family payload offset cause hf => ?_) n wording
  obtain ⟨e, he, u, w₁, hrun⟩ := exists_of_runEngines_eq_error (Prod.ext (y := (_, _)) h rfl)
  obtain ⟨fam, -, he⟩ := List.mem_filterMap.1 he
  obtain ⟨place, hplace⟩ := fam.exists_placing? he wrapTokens
  rw [Engine.action_eq_of_run_eq_error hplace hrun hf]
  obtain ⟨shape, transform, wrapper, rfl⟩ := Family.exists_engineFor he
  rfl

end Tool

/-! ### Rendering -/

namespace Command

variable {vars : Assoc Text Text} {w w₁ : World}

/-- **What becomes of the entries:** each value is decoded as it is alone, or the first one that
cannot be decoded is reported with the name in front of it. -/
theorem reveal_cases (tool : Tool) (wrapTokens : Bool) (hnames : ∀ v ∈ vars, ':' ∉ v.1 ∧ '=' ∉ v.1)
    (hw : w₁.vault.contents = w.vault.contents) :
    (∃ ms : Assoc Text Text,
      List.Forall₂ (fun v m => m.1 = v.1 ∧ (tool.run .decode wrapTokens v.2 w).1 = .ok m.2)
        vars ms ∧
      (reveal (tool.run .decode wrapTokens) (vars.map entry) w₁).1 = .ok (ms.map entry)) ∨
    ∃ front v back f, vars = front ++ v :: back ∧
      (∀ u ∈ front, ∃ r, (tool.run .decode wrapTokens u.2 w).1 = .ok r) ∧
      (tool.run .decode wrapTokens v.2 w).1 = .error f ∧
      (reveal (tool.run .decode wrapTokens) (vars.map entry) w₁).1 =
        .error ⟨v.1, f.shift (v.1.length + 1)⟩ := by
  induction vars generalizing w₁ with
  | nil => exact .inl ⟨[], .nil, rfl⟩
  | cons v vars ih =>
      obtain ⟨⟨hcolon, hsep⟩, hnames⟩ := List.forall_mem_cons.1 hnames
      have hentry : tool.run .decode wrapTokens (entry v) w₁ = _ :=
        tool.run_entry .decode wrapTokens hcolon v.2 w₁
      have halone := tool.fst_run_of_contents_eq (Or.inl rfl) wrapTokens v.2 hw
      have hkept := (tool.contents_run (Or.inl rfl) wrapTokens v.2 w₁).trans hw
      rcases hrun : tool.run .decode wrapTokens v.2 w₁ with ⟨f | r, w₂⟩
      · rw [hrun] at halone hentry
        refine .inr ⟨[], v, vars, f, rfl, nofun, halone.symm, ?_⟩
        rw [List.map_cons, reveal, hentry, Engine.behind, entryName_entry hsep, List.length_append]
        rfl
      · rw [hrun] at halone hentry hkept
        have hreveal : (reveal (tool.run .decode wrapTokens) ((v :: vars).map entry) w₁).1 =
            (entry (v.1, r) :: ·) <$>
              (reveal (tool.run .decode wrapTokens) (vars.map entry) w₂).1 := by
          rw [List.map_cons, reveal, hentry, Engine.behind, ← List.append_cons]
          rfl
        rcases ih hnames hkept with ⟨ms, hms, hrest⟩ | ⟨front, u, back, f, rfl, hfront, hu, hrest⟩
        · refine .inl ⟨(v.1, r) :: ms, .cons ⟨rfl, halone.symm⟩ hms, ?_⟩
          rw [hreveal, hrest]
          rfl
        · refine .inr ⟨v :: front, u, back, f, rfl, ?_, hu, ?_⟩
          · exact List.forall_mem_cons.2 ⟨⟨r, halone.symm⟩, hfront⟩
          · rw [hreveal, hrest]
            rfl

/-- The inputs of a command with these variables, rendered with decoding for replacing. -/
def rendered (tool : Tool) (wrapTokens : Bool) (name : Text) (args : List Text)
    (vars : Assoc Text Text) (w : World) : Except (RenderFailure (Engine.Failure Cause)) Inputs :=
  (render (tool.run .decode wrapTokens) ⟨name, args, vars.map entry⟩ w).1

theorem rendered_eq (tool : Tool) (wrapTokens : Bool) (name : Text) (args : List Text) :
    rendered tool wrapTokens name args vars w =
      (reveal (tool.run .decode wrapTokens) (vars.map entry) w).1.map fun env =>
        ⟨name, args.map (expand (environmentMap env)), env⟩ := rfl

/-- Variables with the same names, one after the other, have the same keys. -/
theorem keys_eq_of_forall₂ {ms : Assoc Text Text} {P : Text × Text → Text × Text → Prop}
    (h : List.Forall₂ (fun v m => m.1 = v.1 ∧ P v m) vars ms) : ms.keys = vars.keys := by
  induction h with
  | nil => rfl
  | cons hv _ ih => exact congrArg₂ List.cons hv.1 ih

theorem forall_exists_of_forall₂ {ε : Type} (decoded : Text → Except ε Text)
    {ms : Assoc Text Text}
    (h : List.Forall₂ (fun v m => m.1 = v.1 ∧ decoded v.2 = .ok m.2) vars ms) :
    ∀ v ∈ vars, ∃ r, decoded v.2 = .ok r := by
  induction h with
  | nil => nofun
  | cons hv _ ih => exact List.forall_mem_cons.2 ⟨⟨_, hv.2⟩, ih⟩

/-- **The environment is decoded value by value.**  Variables with different names, in which there
is neither a colon nor an equality sign, have any values; a tool has any families, and its vault any
contents.  With decoding for replacing, a command with these variables is rendered if and only if
each value can be decoded alone.  Then it is run with the same variables, and each has the value
that its value alone decodes to; else the first variable whose value cannot be decoded is reported,
with what is wrong with that value alone. -/
theorem render_decode (tool : Tool) (wrapTokens : Bool) (name : Text) (args : List Text)
    (vars : Assoc Text Text) (w : World) (hnames : ∀ v ∈ vars, ':' ∉ v.1 ∧ '=' ∉ v.1)
    (hdistinct : vars.keys.Nodup) :
    ((∃ inputs, rendered tool wrapTokens name args vars w = .ok inputs) ↔
      ∀ v ∈ vars, ∃ r, (tool.run .decode wrapTokens v.2 w).1 = .ok r) ∧
    (∀ inputs, rendered tool wrapTokens name args vars w = .ok inputs →
      List.Forall₂ (fun v m => m.1 = v.1 ∧ (tool.run .decode wrapTokens v.2 w).1 = .ok m.2)
        vars (environmentMap inputs.env)) ∧
    ∀ f, rendered tool wrapTokens name args vars w = .error f →
      ∃ front v back cause, vars = front ++ v :: back ∧
        (∀ u ∈ front, ∃ r, (tool.run .decode wrapTokens u.2 w).1 = .ok r) ∧
        (tool.run .decode wrapTokens v.2 w).1 = .error cause ∧ f.entry = v.1 ∧
        f.message (Engine.Failure.message Cause.message) =
          "failed to replace values in environment variable " ++ String.ofList v.1 ++ ": " ++
            cause.message Cause.message := by
  rw [rendered_eq]
  have hw : w.vault.contents = w.vault.contents := rfl
  rcases reveal_cases tool wrapTokens hnames hw with
    ⟨ms, hms, hreveal⟩ | ⟨front, v, back, c, rfl, hfront, hv, hreveal⟩
  · rw [hreveal]
    have hkeys := keys_eq_of_forall₂ hms
    refine ⟨⟨fun _ v hv => ?_, fun _ => ⟨_, rfl⟩⟩, fun inputs h => ?_, nofun⟩
    · exact forall_exists_of_forall₂ (fun t => (tool.run .decode wrapTokens t w).1) hms v hv
    · cases h
      have hseps : ∀ m ∈ ms, '=' ∉ m.1 := by
        intro m hm
        have hname : m.1 ∈ vars.keys := hkeys ▸ List.mem_map_of_mem hm
        obtain ⟨v, hv, hvm⟩ := List.mem_map.1 hname
        exact hvm ▸ (hnames v hv).2
      rw [environmentMap_map_entry hseps (hkeys ▸ hdistinct)]
      exact hms
  · rw [hreveal]
    refine ⟨⟨nofun, fun hall => ?_⟩, nofun, fun f hf => ?_⟩
    · obtain ⟨r, hr⟩ := hall v (List.mem_append_right _ List.mem_cons_self)
      cases hv.symm.trans hr
    · obtain rfl := Except.error.inj hf
      have hmessage := Tool.message_shift_of_run hv (v.1.length + 1) Cause.message
      exact ⟨front, v, back, c, rfl, hfront, hv, rfl, congrArg
        ("failed to replace values in environment variable " ++ String.ofList v.1 ++ ": " ++ ·)
        hmessage⟩

/-- A vault with a secret in which there are an equality sign and a line break. -/
def odd : World :=
  ⟨⟨fun _ n => Vector.replicate n 0, 0⟩,
    .memory [("p".toList, [("k".toList, .text "a=b\nc".toList)])] []⟩

/-- A variable that is looked up, and one that holds no token. -/
def oddVars : Assoc Text Text := [("A".toList, "vault:p#k".toList), ("vault".toList, "=".toList)]

theorem render_decode_odd :
    (∀ v ∈ oddVars, ':' ∉ v.1 ∧ '=' ∉ v.1) ∧ oddVars.keys.Nodup ∧
    ∃ inputs, rendered (Tool.ofParts none true) false [] [] oddVars odd = .ok inputs ∧
      environmentMap inputs.env =
        [("A".toList, "a=b\nc".toList), ("vault".toList, "=".toList)] := by
  have hnames : ∀ v ∈ oddVars, ':' ∉ v.1 ∧ '=' ∉ v.1 := by decide
  have hdistinct : oddVars.keys.Nodup := by decide
  have hA : ((Tool.ofParts none true).run .decode false "vault:p#k".toList odd).1 =
      .ok "a=b\nc".toList := by rfl
  have hB : ((Tool.ofParts none true).run .decode false "=".toList odd).1 = .ok "=".toList := by rfl
  obtain ⟨hok, hvalues, -⟩ :=
    render_decode (Tool.ofParts none true) false [] [] oddVars odd hnames hdistinct
  have hall : ∀ v ∈ oddVars,
      ∃ r, ((Tool.ofParts none true).run .decode false v.2 odd).1 = .ok r :=
    List.forall_mem_cons.2 ⟨⟨_, hA⟩, List.forall_mem_cons.2 ⟨⟨_, hB⟩, nofun⟩⟩
  obtain ⟨inputs, hinputs⟩ := hok.2 hall
  refine ⟨hnames, hdistinct, inputs, hinputs, ?_⟩
  have hmap := hvalues inputs hinputs
  generalize environmentMap inputs.env = ms at hmap ⊢
  obtain ⟨⟨_, _⟩, _, ⟨rfl, hA'⟩, hrest, rfl⟩ := List.forall₂_cons_left_iff.1 hmap
  obtain ⟨⟨_, _⟩, _, ⟨rfl, hB'⟩, hnil, rfl⟩ := List.forall₂_cons_left_iff.1 hrest
  cases hnil
  cases hA.symm.trans hA'
  cases hB.symm.trans hB'
  rfl

end Command

end InlineSecrets
