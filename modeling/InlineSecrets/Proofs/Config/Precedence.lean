/-
**Where a setting comes from.**

The sources of a configuration take precedence over each other setting by setting: what the
configuration file says about a setting comes first, then the variable in the environment, then the
one in the file of variables, and then the default.  A variable in the environment hides the one in
the file also when it is empty, and then says nothing itself.

That this is so for every setting alone is because the configuration file is merged over what the
variables say, which keeps what stands at other paths.

Main definitions:

* `InlineSecrets.Config.valueOf` — the value of a variable of the environment and a file;
* `InlineSecrets.Config.AreSources` — what the sources of a configuration are;
* `InlineSecrets.Config.chosen` — the data that a field is taken from.

Main results:

* `InlineSecrets.Assoc.get?_update` — what is at a key when other entries were set;
* `InlineSecrets.Config.at?_merge` — merged data have the chosen ones in them;
* `InlineSecrets.Config.AreSources.load_eq` — settings are checked from the chosen data;
* `InlineSecrets.Config.precedence` — **every setting comes from the first source that has it.**
-/

import InlineSecrets.Proofs.Config.Checking
import InlineSecrets.Proofs.Config.Documents
import InlineSecrets.Proofs.Config.Reading

set_option relaxedAutoImplicit false
set_option autoImplicit false

namespace InlineSecrets

/-! ### Variables -/

namespace Assoc

variable {κ α : Type} [DecidableEq κ]

/-- **What is at a key when other entries were set:** what they have there, or else what there was
before. -/
theorem get?_update (m other : Assoc κ α) (x : κ) :
    (m.update other).get? x = ((ofEntries other).get? x).or (m.get? x) := by
  induction other generalizing m with
  | nil => rfl
  | cons e r ih =>
      obtain ⟨k, v⟩ := e
      have hcons : ∀ m : Assoc κ α, m.update ((k, v) :: r) = (m.set k v).update r := fun _ => rfl
      rw [ofEntries, hcons, hcons, ih, ih, get?_set, get?_set, Option.or_assoc]
      congr 1
      split <;> simp

end Assoc

namespace Config

variable {files : Files} {file variablesFile : Option Text} {surrounding given : Assoc Text Text}
variable {own : Assoc Text Text} {entries base : Entries Setting}

/-- The value of a variable of the environment, if it is not empty; or else, if the environment has
no such variable, its value in a file, if it is not empty there. -/
def valueOf (given own : Assoc Text Text) (name : String) : Option Text :=
  match Assoc.get? (Assoc.ofEntries given) name.toList with
  | some t => if t.isEmpty then none else some t
  | none =>
      match Assoc.get? own name.toList with
      | some t => if t.isEmpty then none else some t
      | none => none

/-- The variables are those of the environment, and under them those of the file. -/
theorem readVariables_eq : readVariables files variablesFile surrounding given =
    (fun own => Assoc.update own given) <$> readVariables files variablesFile surrounding [] := by
  unfold readVariables
  cases variablesFile with
  | none => rfl
  | some name =>
      simp only [Option.map_some]
      cases readText files (Files.tidy name) with
      | error f => rfl
      | ok r =>
          cases r with
          | ok t => rfl
          | error e => cases e <;> rfl

theorem nonEmpty?_update (name : String) :
    nonEmpty? (Assoc.update own given) name = valueOf given own name := by
  unfold nonEmpty? valueOf
  rw [Assoc.get?_update]
  cases Assoc.get? (Assoc.ofEntries given) name.toList with
  | some t => cases t <;> rfl
  | none =>
      cases Assoc.get? own name.toList with
      | some t => cases t <;> rfl
      | none => rfl

/-! ### Merged data -/

/-- What a configuration file says; nothing where there is none. -/
def entriesOfFile (files : Files) : Option Text → Except Failure (Entries Setting)
  | none => .ok []
  | some name => outlineOfFile files name

/-- Whether what entries have for the vault is a mapping, if they have anything. -/
def VaultIsMapping (entries : Entries Setting) : Prop :=
  ∀ v, Entries.get? entries (.text "vault".toList) = some v → ∃ vs, v = .map vs

/-- **What the sources of a configuration are:** the variables of the file of variables, and the
entries of the configuration file.  What is set for the number of the layout is a whole number; the
keys of the entries are texts; and what they have for the vault is a mapping. -/
structure AreSources (files : Files) (file variablesFile : Option Text)
    (surrounding given own : Assoc Text Text) (entries : Entries Setting) : Prop where
  ownVariables : readVariables files variablesFile surrounding [] = .ok own
  version : ∀ t, valueOf given own versionVariable = some t → (Text.readInt? t).isSome = true
  file : entriesOfFile files file = .ok entries
  texts : ∀ e ∈ entries, isTextKey e.1 = true
  vault : VaultIsMapping entries

/-- The data that a field is taken from: what the configuration file says about it, or else what the
variable for it says. -/
def chosen (given own : Assoc Text Text) (entries : Entries Setting) (fd : Field) :
    Option Setting :=
  ((Setting.map entries).at? fd.path).or ((valueOf given own fd.source).bind fd.read)

/-- A file has every key once. -/
theorem hasDistinctKeys_entriesOfFile (h : entriesOfFile files file = .ok entries) :
    (Setting.map entries).HasDistinctKeys := by
  cases file with
  | none =>
      cases h
      exact .map List.Pairwise.nil (List.forall_mem_nil _)
  | some name =>
      obtain ⟨t, d, -, ht, ⟨-, rfl⟩ | hd⟩ := outlineOfFile_eq_ok_iff.1 h
      · exact .map List.Pairwise.nil (List.forall_mem_nil _)
      · rw [← hd]
        exact Yaml.Document.hasDistinctKeys_outline ht settingsDepth

/-- What the variables say about a field is no mapping. -/
theorem entries?_of_read {fd : Field} {t : Text} {v : Setting} (h : fd.read t = some v) :
    v.entries? = none := by
  cases fd with
  | keyText | url | token | space =>
      cases h
      rfl
  | enabled =>
      rw [Field.read] at h
      split at h
      · cases h
        rfl
      · cases h
  | layout =>
      obtain ⟨i, -, rfl⟩ := Option.map_eq_some_iff.1 h
      rfl

/-- A field stands at the top, or in the vault. -/
theorem path_cases (fd : Field) :
    (∃ k, fd.path = [k]) ∨ ∃ k, fd.path = [.text "vault".toList, k] := by
  cases fd with
  | keyText => exact .inl ⟨_, rfl⟩
  | enabled | url | token | space | layout => exact .inr ⟨_, rfl⟩

/-- A field that the file says nothing about is not hidden by something else. -/
theorem VaultIsMapping.not_isCutAt (hvault : VaultIsMapping entries) {fd : Field}
    (h : (Setting.map entries).at? fd.path = none) : ¬(Setting.map entries).IsCutAt fd.path := by
  intro hcut
  rcases path_cases fd with ⟨k, hpath⟩ | ⟨k, hpath⟩
  · rw [hpath, Setting.isCutAt_cons] at hcut
    obtain ⟨v, hv, -⟩ := hcut
    rw [hpath, Setting.at?, Setting.value?_map, hv] at h
    cases h
  · rw [hpath, Setting.isCutAt_cons] at hcut
    obtain ⟨v, hv, hcut⟩ := hcut
    obtain ⟨vs, rfl⟩ := hvault v hv
    obtain ⟨w, hw, -⟩ := Setting.isCutAt_cons.1 hcut
    rw [hpath, Setting.at?, Setting.value?_map, hv, Option.bind_some, Setting.at?,
      Setting.value?_map, hw] at h
    cases h

/-- **Merged data have the chosen ones in them.** -/
theorem at?_merge (hentries : (Setting.map entries).HasDistinctKeys)
    (hvault : VaultIsMapping entries)
    (hbase : ∀ fd : Field, (Setting.map base).at? fd.path =
      (valueOf given own fd.source).bind fd.read) (fd : Field) :
    (Setting.map (Setting.merge base entries)).at? fd.path = chosen given own entries fd := by
  rw [← Setting.override, chosen, ← hbase]
  cases h : (Setting.map entries).at? fd.path with
  | some v =>
      have hscalar : ∀ w, (Setting.map base).at? fd.path = some w → w.entries? = none := by
        intro w hw
        rw [hbase] at hw
        obtain ⟨t, -, hread⟩ := Option.bind_eq_some_iff.1 hw
        exact entries?_of_read hread
      rw [Setting.at?_override hentries _ h, Option.bind_some, Setting.override_of_base hscalar]
      rfl
  | none =>
      exact (Setting.at?_override_of_eq_none hentries _ h).2 (hvault.not_isCutAt h)

/-! ### All sources -/

/-- What the settings come from, as it is named in complaints. -/
def sourceOf : Option Text → Text
  | none => environmentSource
  | some name => Files.tidy name

/-- What the variables say, whatever the sources are. -/
theorem AreSources.ofVariables_eq
    (h : AreSources files file variablesFile surrounding given own entries) :
    ∃ base, ofVariables (Assoc.update own given) = .ok base := by
  rcases ofVariables_cases (Assoc.update own given) with hbase | ⟨t, ht, hunclear, -⟩
  · exact ⟨_, hbase⟩
  · rw [nonEmpty?_update] at ht
    have hclear := h.version t ht
    rw [hunclear] at hclear
    cases hclear

/-- The settings are made from what the configuration file says, merged over what the variables
say. -/
theorem AreSources.load_eq_build
    (h : AreSources files file variablesFile surrounding given own entries) {base : Entries Setting}
    (hbase : ofVariables (Assoc.update own given) = .ok base) :
    load files file variablesFile surrounding given =
      build (Setting.merge base entries) (sourceOf file) := by
  have hvars : readVariables files variablesFile surrounding given =
      .ok (Assoc.update own given) := by
    rw [readVariables_eq, h.ownVariables]
    rfl
  have hfile := h.file
  unfold load
  rw [hvars]
  simp only [Bind.bind, Except.bind, hbase]
  cases file with
  | none =>
      cases hfile
      rw [Setting.merge]
      rfl
  | some name =>
      rw [entriesOfFile] at hfile
      simp only [hfile]
      rfl

/-- What stands for the vault in merged data is a mapping. -/
theorem exists_vault_merge (hentries : (Setting.map entries).HasDistinctKeys)
    (hvault : VaultIsMapping entries) {base vs : Entries Setting}
    (hbase : Entries.get? base (.text "vault".toList) = some (.map vs)) :
    ∃ ms, Entries.get? (Setting.merge base entries) (.text "vault".toList) = some (.map ms) := by
  cases hentries with
  | map hdistinct =>
      rw [Setting.get?_merge hdistinct, hbase]
      cases h : Entries.get? entries (.text "vault".toList) with
      | none => exact ⟨vs, rfl⟩
      | some v =>
          obtain ⟨es, rfl⟩ := hvault v h
          exact ⟨Setting.merge vs es, by simp only [Setting.override]⟩

/-- The settings are those that are checked from the chosen data. -/
theorem AreSources.load_eq (h : AreSources files file variablesFile surrounding given own entries) :
    load files file variablesFile surrounding given =
      let choose := chosen given own entries
      if (Settings.complaints choose).isEmpty then .ok (Settings.taken choose)
      else .error (.rejected (sourceOf file) (Settings.complaints choose)) := by
  obtain ⟨base, hbase⟩ := h.ofVariables_eq
  have hentries := hasDistinctKeys_entriesOfFile h.file
  have hchosen : (fun fd : Field => (Setting.map (Setting.merge base entries)).at? fd.path) =
      chosen given own entries := by
    refine funext (at?_merge hentries h.vault fun fd => ?_)
    rw [at?_of_ofVariables hbase, Field.said, nonEmpty?_update]
  have htexts : ((Setting.merge base entries).all fun e => isTextKey e.1) = true := by
    rw [all_isTextKey_merge, List.all_eq_true.2 (isTextKey_of_ofVariables hbase),
      List.all_eq_true.2 h.texts]
    rfl
  obtain ⟨vs, hvs⟩ := exists_vault_of_ofVariables hbase
  obtain ⟨ms, hms⟩ := exists_vault_merge hentries h.vault hvs
  rw [h.load_eq_build hbase, build, if_pos htexts, Settings.check_eq hms, hchosen]
  simp only
  split <;> rfl

/-- **Every setting comes from the first source that has it.**  What stands where in merged data is
said for all mappings.  With sources of any kind, the settings are loaded exactly when all data that
are chosen for the fields are accepted, and then each setting is what the data for its field are
checked to be, or the default, if there are none; else the complaints are those about these data. -/
theorem precedence :
    (∀ base upper, (Setting.map upper).HasDistinctKeys →
      Setting.IsMerged (.map base) (.map upper) (.map (Setting.merge base upper))) ∧
    ∀ {files file variablesFile surrounding given own entries},
      AreSources files file variablesFile surrounding given own entries →
      (∀ s, load files file variablesFile surrounding given = .ok s ↔
        s.AreTakenFrom (chosen given own entries)) ∧
      ∀ f, load files file variablesFile surrounding given = .error f ↔
        Settings.complaints (chosen given own entries) ≠ [] ∧
          f = .rejected (sourceOf file) (Settings.complaints (chosen given own entries)) := by
  refine ⟨fun base upper => Setting.isMerged_merge, fun {_ _ _ _ given own entries} h => ?_⟩
  rw [h.load_eq]
  simp only [Settings.areTakenFrom_iff]
  cases hcomplaints : Settings.complaints (chosen given own entries) with
  | nil => simp [eq_comm]
  | cons c cs => simp [eq_comm]

/-- The text of a key. -/
def ownKey : String := "AAAAAAAAAAAAAAAAAAAAAAAAAAAAAAAAAAAAAAAAAAA="

/-- A configuration file with two of the settings of the vault, one of them empty, and a file of
variables. -/
def layered : Files :=
  [ ("c.yaml".toList, Utf8.encode "vault:\n  url: file\n  token:\n".toList),
    (".env".toList, Utf8.encode ("AES_KEY=" ++ ownKey ++
      "\nVAULT_ADDR=own\nVAULT_NAMESPACE=own\nSECRETSPLICE_VAULT_KV_VERSION=1\n").toList) ]

/-- An environment in which one variable is empty. -/
def around : Assoc Text Text :=
  [ ("VAULT_ADDR".toList, "env".toList), ("VAULT_TOKEN".toList, "env".toList),
    ("VAULT_NAMESPACE".toList, []), (versionVariable.toList, "2".toList) ]

/-- The settings from these sources. -/
def layeredSettings : Settings :=
  ⟨some ownKey.toList, ⟨true, some "file".toList, none, none, some .versioned⟩⟩

theorem exists_of_any_toOption {ε α : Type} {x : Except ε α} {p : α → Bool}
    (h : x.toOption.any p = true) : ∃ a, x = .ok a ∧ p a = true := by
  cases x with
  | error e => cases h
  | ok a => exact ⟨a, rfl, h⟩

theorem areSources_layered : ∃ own entries,
    AreSources layered (some "c.yaml".toList) (some ".env".toList) [] around own entries := by
  have hown : ((readVariables layered (some ".env".toList) [] []).toOption.any fun own =>
      (valueOf around own versionVariable).all fun t => (Text.readInt? t).isSome) = true := by
    decide +kernel
  have hfile : ((outlineOfFile layered "c.yaml".toList).toOption.any fun entries =>
      (entries.all fun e => isTextKey e.1) &&
        (Entries.get? entries (.text "vault".toList)).all fun v => v.entries?.isSome) = true := by
    decide +kernel
  obtain ⟨own, hvariables, hversion⟩ := exists_of_any_toOption hown
  obtain ⟨entries, hentries, h⟩ := exists_of_any_toOption hfile
  obtain ⟨htexts, hvault⟩ := Bool.and_eq_true_iff.1 h
  refine ⟨own, entries, hvariables, fun t ht => ?_, hentries, List.all_eq_true.1 htexts,
    fun v hv => ?_⟩
  · rw [ht] at hversion
    exact hversion
  · rw [hv] at hvault
    obtain ⟨vs, hvs⟩ := Option.isSome_iff_exists.1 hvault
    cases v with
    | map es => exact ⟨es, rfl⟩
    | scalar | list => cases hvs

/-- A mapping with a setting of the vault. -/
def vaultWithUrl (url : String) : Entries Setting :=
  [(.text "vault".toList, .map [(.text "url".toList, .text url.toList)])]

theorem hasDistinctKeys_vaultWithUrl (url : String) :
    (Setting.map (vaultWithUrl url)).HasDistinctKeys := by
  refine .map (List.pairwise_singleton _ _) fun e he => ?_
  rw [List.mem_singleton.1 he]
  refine .map (List.pairwise_singleton _ _) fun e he => ?_
  rw [List.mem_singleton.1 he]
  exact .scalar _

theorem precedence_layered :
    Setting.IsMerged (.map (vaultWithUrl "env")) (.map (vaultWithUrl "file"))
      (.map (Setting.merge (vaultWithUrl "env") (vaultWithUrl "file"))) ∧
    ∃ own entries,
      AreSources layered (some "c.yaml".toList) (some ".env".toList) [] around own entries ∧
      load layered (some "c.yaml".toList) (some ".env".toList) [] around = .ok layeredSettings ∧
      layeredSettings.AreTakenFrom (chosen around own entries) := by
  obtain ⟨own, entries, hsources⟩ := areSources_layered
  have hload : load layered (some "c.yaml".toList) (some ".env".toList) [] around =
      .ok layeredSettings := by
    have hany : ((load layered (some "c.yaml".toList) (some ".env".toList) [] around).toOption.any
        fun s => s == layeredSettings) = true := by
      decide +kernel
    obtain ⟨s, hs, heq⟩ := exists_of_any_toOption hany
    rw [hs, eq_of_beq heq]
  refine ⟨precedence.1 _ _ (hasDistinctKeys_vaultWithUrl "file"), own, entries, hsources, hload, ?_⟩
  exact ((precedence.2 hsources).1 layeredSettings).1 hload

end Config

end InlineSecrets
