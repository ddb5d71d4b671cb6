/-
**Which failures of a configuration are not reported.**

A configuration that is missing or malformed is a failure for which there is a message: the program
ends with it.  Some failures get past that.  Bytes that are no text are not among the faults that
are looked for when a file is read, nor are scalars that do not fit their tags and collections that
are nested too deep among those of a document, and the keys of the settings are never looked at.
These are all: whatever else is in the environment and in the files, the settings are loaded, or
the failure is reported.

Main definitions:

* `InlineSecrets.Config.EscapesWith` — ending with a failure that is not reported;
* `InlineSecrets.Config.VariablesEscape`, `InlineSecrets.Config.FileEscapes` — what has to be in the
  file of variables, or in the configuration file, for that.

Main results:

* `InlineSecrets.Config.escapesWith_bind` — something done in two steps ends so in one of them;
* `InlineSecrets.Config.escapesWith_readVariables`, `InlineSecrets.Config.escapesWith_document` —
  which files cannot be read without that;
* `InlineSecrets.Config.escapesWith_load` — **which failures are not reported.**
-/

import InlineSecrets.CommandLine.Program
import InlineSecrets.Proofs.Config.Fields
import InlineSecrets.Proofs.Config.Reading

set_option relaxedAutoImplicit false
set_option autoImplicit false

namespace InlineSecrets

namespace Config

open CommandLine (isReported)

variable {α β : Type} {files : Files} {name : Text} {f : Failure}

/-! ### Ending with a failure that is not reported -/

/-- Whether something ends with a failure that is not reported. -/
def EscapesWith (x : Except Failure α) (f : Failure) : Prop := x = .error f ∧ isReported f = false

theorem escapesWith_error {e : Failure} :
    EscapesWith (.error e : Except Failure α) f ↔ f = e ∧ isReported e = false := by
  constructor
  · rintro ⟨h, hf⟩
    cases h
    exact ⟨rfl, hf⟩
  · rintro ⟨rfl, hf⟩
    exact ⟨rfl, hf⟩

@[simp] theorem not_escapesWith_ok (a : α) : ¬EscapesWith (.ok a) f := by
  rintro ⟨h, -⟩
  cases h

/-- **What is done in two steps ends so in one of them.** -/
theorem escapesWith_bind {x : Except Failure α} {g : α → Except Failure β} :
    EscapesWith (x >>= g) f ↔ EscapesWith x f ∨ ∃ a, x = .ok a ∧ EscapesWith (g a) f := by
  cases x with
  | error e => simp [EscapesWith, Bind.bind, Except.bind]
  | ok a => simp [EscapesWith, Bind.bind, Except.bind]

/-! ### Variables -/

/-- What has to be with the file of variables for a failure that is not reported: its name is too
long, or its bytes are no text. -/
inductive VariablesEscape (files : Files) (name : Text) : Failure → Prop where
  | tooLong (h : files.read name = .error .tooLong) :
      VariablesEscape files name (.unusableName name .tooLong)
  | notText {b : Bytes} {u : Utf8.Fault} (h : files.read name = .ok b)
      (hb : Utf8.decode b = .error u) : VariablesEscape files name (.notText u)

/-- **Which files of variables cannot be read without that.** -/
theorem escapesWith_readVariables {file : Option Text} {surrounding given : Assoc Text Text} :
    EscapesWith (readVariables files file surrounding given) f ↔
      ∃ name, file = some name ∧ VariablesEscape files (Files.tidy name) f := by
  cases file with
  | none => simp [readVariables]
  | some name =>
      simp only [readVariables, Option.map_some, escapesWith_bind, Option.some.injEq,
        exists_eq_left']
      generalize Files.tidy name = name
      rcases read_cases files name with ⟨e, h⟩ | ⟨t, h⟩ | ⟨b, u, h, hb⟩
      · simp only [readText_of_error h, not_escapesWith_ok, false_or, Except.ok.injEq,
          exists_eq_left']
        constructor
        · intro hescapes
          cases e with
          | tooLong =>
              obtain ⟨rfl, -⟩ := escapesWith_error.1 hescapes
              exact .tooLong h
          | isDirectory => exact absurd hescapes (not_escapesWith_ok _)
          | absent | notDirectory | zeroByte => cases (escapesWith_error.1 hescapes).2
        · rintro (h' | ⟨h', -⟩)
          · cases h.symm.trans h'
            exact ⟨rfl, rfl⟩
          · cases h.symm.trans h'
      · simp only [readText_of_text h, not_escapesWith_ok, false_or, Except.ok.injEq,
          exists_eq_left']
        refine iff_of_false (not_escapesWith_ok _) ?_
        rintro (h' | ⟨h', hb⟩)
        · cases h.symm.trans h'
        · cases h.symm.trans h'
          rw [Utf8.decode_encode] at hb
          cases hb
      · simp only [readText_of_decode h hb, escapesWith_error]
        constructor
        · rintro (⟨rfl, -⟩ | ⟨a, ha, -⟩)
          · exact .notText h hb
          · cases ha
        · rintro (h' | ⟨h', hb'⟩)
          · cases h.symm.trans h'
          · cases h.symm.trans h'
            cases hb.symm.trans hb'
            exact .inl ⟨rfl, rfl⟩

/-- That the number of a layout is unclear is reported. -/
theorem not_escapesWith_ofVariables (vars : Assoc Text Text) :
    ¬EscapesWith (ofVariables vars) f := by
  rcases ofVariables_cases vars with h | ⟨t, -, -, h⟩
  · rw [h]
    exact not_escapesWith_ok _
  · rw [h, escapesWith_error]
    rintro ⟨-, h⟩
    cases h

/-! ### The configuration file -/

theorem escapesWith_build {es : Entries Setting} {source : Text} :
    EscapesWith (build es source) f ↔
      f = .nonTextKey ∧ (es.all fun e => isTextKey e.1) = false := by
  unfold build
  split
  · next h =>
      refine iff_of_false ?_ (by simp [h])
      cases Settings.check es with
      | ok s => exact not_escapesWith_ok s
      | error complaints =>
          rintro ⟨h, hf⟩
          cases h
          cases hf
  · next h => simp [escapesWith_error, isReported, Bool.eq_false_iff.2 h]

/-- Which faults of a text are not reported. -/
theorem escapesWith_mapError {x : Except Yaml.Fault α} :
    EscapesWith (x.mapError (failureOf name)) f ↔
      (∃ m, x = .error (.misfit m) ∧ f = .misfit m) ∨ x = .error .tooDeep ∧ f = .tooDeep := by
  cases x with
  | ok a => simp [Except.mapError]
  | error e =>
      cases e with
      | malformed => simp [Except.mapError, failureOf, escapesWith_error, isReported]
      | misfit m => simp [Except.mapError, failureOf, escapesWith_error, isReported, eq_comm]
      | tooDeep => simp [Except.mapError, failureOf, escapesWith_error, isReported]

/-- What has to be with the configuration file for a failure that is not reported: its name has a
zero byte, or its bytes are no text, or there is a scalar in its document that does not fit its tag,
or a collection that is nested too deep, or a key of its mapping is not a text. -/
inductive FileEscapes (files : Files) (name : Text) : Failure → Prop where
  | zeroByte (h : files.read name = .error .zeroByte) :
      FileEscapes files name (.unusableName name .zeroByte)
  | notText {b : Bytes} {u : Utf8.Fault} (h : files.read name = .ok b)
      (hb : Utf8.decode b = .error u) : FileEscapes files name (.notText u)
  | misfit {t : Text} {m : Yaml.Misfit} (h : files.read name = .ok (Utf8.encode t))
      (ht : Yaml.Document.ofText t.unifyBreaks = .error (.misfit m)) :
      FileEscapes files name (.misfit m)
  | tooDeep {t : Text} (h : files.read name = .ok (Utf8.encode t))
      (ht : Yaml.Document.ofText t.unifyBreaks = .error .tooDeep) : FileEscapes files name .tooDeep
  | nonTextKey {t : Text} {d : Yaml.Document} {es : Entries Setting}
      (h : files.read name = .ok (Utf8.encode t)) (ht : Yaml.Document.ofText t.unifyBreaks = .ok d)
      (hd : d.outline settingsDepth = .map es) (hes : ∃ e ∈ es, isTextKey e.1 = false) :
      FileEscapes files name .nonTextKey

/-- **Which files cannot be read without that.** -/
theorem escapesWith_document :
    EscapesWith (document files name) f ↔ FileEscapes files name f ∧ f ≠ .nonTextKey := by
  constructor
  · intro h
    rcases read_cases files name with ⟨e, hread⟩ | ⟨t, hread⟩ | ⟨b, u, hread, hb⟩
    · rw [document_of_error hread, escapesWith_error] at h
      obtain ⟨rfl, h⟩ := h
      split at h
      · next he =>
          subst he
          exact ⟨.zeroByte hread, Failure.noConfusion⟩
      · cases h
    · rw [document_of_text hread, escapesWith_mapError] at h
      rcases h with ⟨m, ht, rfl⟩ | ⟨ht, rfl⟩
      · exact ⟨.misfit hread ht, Failure.noConfusion⟩
      · exact ⟨.tooDeep hread ht, Failure.noConfusion⟩
    · rw [document_of_decode hread hb, escapesWith_error] at h
      obtain ⟨rfl, -⟩ := h
      exact ⟨.notText hread hb, Failure.noConfusion⟩
  · rintro ⟨h, hne⟩
    cases h with
    | zeroByte h => exact ⟨document_of_error h, rfl⟩
    | notText h hb => exact ⟨document_of_decode h hb, rfl⟩
    | misfit h ht =>
        rw [document_of_text h, ht]
        exact ⟨rfl, rfl⟩
    | tooDeep h ht =>
        rw [document_of_text h, ht]
        exact ⟨rfl, rfl⟩
    | nonTextKey => exact absurd rfl hne

/-- A file whose data are no mapping is reported. -/
theorem not_escapesWith_entriesOf (v : Setting) : ¬EscapesWith (entriesOf name v) f := by
  unfold entriesOf
  split
  · exact not_escapesWith_ok _
  · exact not_escapesWith_ok _
  · rintro ⟨h, hf⟩
    cases h
    cases hf

/-- The settings from a configuration file and what the variables say. -/
theorem escapesWith_file {base : Entries Setting} (hbase : ∀ e ∈ base, isTextKey e.1 = true)
    {source : Text} :
    EscapesWith (outlineOfFile files name >>= fun es => build (Setting.merge base es) source) f ↔
      FileEscapes files (Files.tidy name) f := by
  have hbuild : ∀ es, EscapesWith (build (Setting.merge base es) source) f ↔
      f = .nonTextKey ∧ ∃ e ∈ es, isTextKey e.1 = false := by
    intro es
    rw [escapesWith_build, all_isTextKey_merge, List.all_eq_true.2 hbase, Bool.true_and,
      List.all_eq_false]
    simp
  simp only [escapesWith_bind, hbuild]
  constructor
  · rintro (h | ⟨es, h, rfl, hes⟩)
    · rcases escapesWith_bind.1 h with h | ⟨d, -, h⟩
      · exact (escapesWith_document.1 h).1
      · exact absurd h (not_escapesWith_entriesOf _)
    · obtain ⟨t, d, hread, ht, ⟨-, rfl⟩ | hd⟩ := outlineOfFile_eq_ok_iff.1 h
      · obtain ⟨e, he, -⟩ := hes
        cases he
      · exact .nonTextKey hread ht hd hes
  · intro h
    by_cases hkey : f = .nonTextKey
    · subst hkey
      cases h with
      | @nonTextKey t d es h ht hd hes =>
          exact .inr ⟨es, outlineOfFile_eq_ok_iff.2 ⟨t, d, h, ht, .inr hd⟩, rfl, hes⟩
    · exact .inl (escapesWith_bind.2 (.inl (escapesWith_document.2 ⟨h, hkey⟩)))

/-! ### All sources -/

variable {file variablesFile : Option Text} {surrounding given : Assoc Text Text}

/-- **Which failures are not reported.**  Nothing escapes but what comes from the file of variables,
or from a configuration file that is read after the variables. -/
theorem escapesWith_load :
    EscapesWith (load files file variablesFile surrounding given) f ↔
      (∃ name, variablesFile = some name ∧ VariablesEscape files (Files.tidy name) f) ∨
      ∃ vars base name, readVariables files variablesFile surrounding given = .ok vars ∧
        ofVariables vars = .ok base ∧ file = some name ∧ FileEscapes files (Files.tidy name) f := by
  rw [load, escapesWith_bind, escapesWith_readVariables]
  refine or_congr Iff.rfl (exists_congr fun vars => ?_)
  rw [escapesWith_bind]
  constructor
  · rintro ⟨hvars, h | ⟨base, hbase, h⟩⟩
    · exact absurd h (not_escapesWith_ofVariables vars)
    · have htexts := isTextKey_of_ofVariables hbase
      cases file with
      | none =>
          rw [escapesWith_build, List.all_eq_true.2 htexts] at h
          cases h.2
      | some name => exact ⟨base, name, hvars, hbase, rfl, (escapesWith_file htexts).1 h⟩
  · rintro ⟨base, name, hvars, hbase, rfl, h⟩
    have htexts := isTextKey_of_ofVariables hbase
    exact ⟨hvars, .inr ⟨base, hbase, (escapesWith_file htexts).2 h⟩⟩

/-- A configuration file whose bytes are no text. -/
theorem load_undecodable : ¬∀ files file variablesFile surrounding given,
    (∃ s, load files file variablesFile surrounding given = .ok s) ∨
      ∃ f, load files file variablesFile surrounding given = .error f ∧ isReported f = true := by
  intro h
  have hload : load [("c.yaml".toList, [0xFF])] (some "c.yaml".toList) none [] [] =
      .error (.notText ⟨0xFF, 0, 1, .invalidStart⟩) := rfl
  rcases h _ _ none [] [] with ⟨s, hs⟩ | ⟨f, hf, hreported⟩
  · cases hload.symm.trans hs
  · cases hload.symm.trans hf
    cases hreported

end Config

end InlineSecrets
