/-
**What is read from the files of a configuration.**

A file cannot be read, or it has a text in it, or its bytes are no text.  Which of these it is
decides what is read; and what a configuration file says is the data of the document in its text,
if that is a mapping or nothing.

Main definitions:

* `InlineSecrets.Config.failureOf` — the failures that come from documents.

Main results:

* `InlineSecrets.Config.read_cases` — what there can be in a file;
* `InlineSecrets.Config.document_eq_ok_iff` — **which files have a document;**
* `InlineSecrets.Config.outlineOfFile_eq_ok_iff` — **what a configuration file says.**
-/

import InlineSecrets.Config.Sources
import InlineSecrets.Proofs.Utf8

set_option relaxedAutoImplicit false
set_option autoImplicit false

namespace InlineSecrets

namespace Config

variable {files : Files} {name : Text}

/-! ### Texts -/

/-- A file cannot be read, or it is a text, or its bytes are none. -/
theorem read_cases (files : Files) (name : Text) :
    (∃ e, files.read name = .error e) ∨ (∃ t, files.read name = .ok (Utf8.encode t)) ∨
      ∃ b u, files.read name = .ok b ∧ Utf8.decode b = .error u := by
  cases files.read name with
  | error e => exact .inl ⟨e, rfl⟩
  | ok b =>
      cases hb : Utf8.decode b with
      | error u => exact .inr (.inr ⟨b, u, rfl, hb⟩)
      | ok t => exact .inr (.inl ⟨t, congrArg Except.ok (Utf8.decode_eq_ok_iff.1 hb)⟩)

theorem readText_of_error {e : Files.Fault} (h : files.read name = .error e) :
    readText files name = .ok (.error e) := by
  rw [readText, h]

theorem readText_of_text {t : Text} (h : files.read name = .ok (Utf8.encode t)) :
    readText files name = .ok (.ok t.unifyBreaks) := by
  simp only [readText, h, Utf8.decode_encode]

theorem readText_of_decode {b : Bytes} {u : Utf8.Fault} (h : files.read name = .ok b)
    (hb : Utf8.decode b = .error u) : readText files name = .error (.notText u) := by
  simp only [readText, h, hb]

/-! ### Documents -/

/-- What there is instead of the document in a file that cannot be read. -/
theorem document_of_error {e : Files.Fault} (h : files.read name = .error e) :
    document files name =
      .error (if e = .zeroByte then .unusableName name .zeroByte else .unreadable name e) := by
  rw [document, readText_of_error h]
  cases e <;> rfl

/-- The failure of a configuration file whose text has a fault. -/
def failureOf (name : Text) : Yaml.Fault → Failure
  | .malformed => .unparsable name
  | .misfit m => .misfit m
  | .tooDeep => .tooDeep

/-- The document in a file that is a text. -/
theorem document_of_text {t : Text} (h : files.read name = .ok (Utf8.encode t)) :
    document files name = (Yaml.Document.ofText t.unifyBreaks).mapError (failureOf name) := by
  rw [document, readText_of_text h]
  rfl

theorem document_of_decode {b : Bytes} {u : Utf8.Fault} (h : files.read name = .ok b)
    (hb : Utf8.decode b = .error u) : document files name = .error (.notText u) := by
  rw [document, readText_of_decode h hb]
  rfl

/-- **Which files have a document.** -/
theorem document_eq_ok_iff {d : Yaml.Document} : document files name = .ok d ↔
    ∃ t, files.read name = .ok (Utf8.encode t) ∧ Yaml.Document.ofText t.unifyBreaks = .ok d := by
  constructor
  · intro hd
    rcases read_cases files name with ⟨e, h⟩ | ⟨t, h⟩ | ⟨b, u, h, hb⟩
    · rw [document_of_error h] at hd
      cases hd
    · rw [document_of_text h] at hd
      refine ⟨t, h, ?_⟩
      cases ht : Yaml.Document.ofText t.unifyBreaks with
      | error e =>
          rw [ht] at hd
          cases hd
      | ok d' =>
          rw [ht] at hd
          cases hd
          rfl
    · rw [document_of_decode h hb] at hd
      cases hd
  · rintro ⟨t, h, ht⟩
    rw [document_of_text h, ht]
    rfl

theorem entriesOf_eq_ok_iff {v : Setting} {es : Entries Setting} :
    entriesOf name v = .ok es ↔ v = .scalar .null ∧ es = [] ∨ v = .map es := by
  unfold entriesOf
  split
  · simp [eq_comm]
  · simp
  · next hnull hmap =>
      refine iff_of_false (by simp) ?_
      rintro (⟨h, -⟩ | h)
      · exact hnull h
      · exact hmap es h

/-- What a configuration file says, when it can be read. -/
theorem outlineOfFile_eq_ok_iff {es : Entries Setting} : outlineOfFile files name = .ok es ↔
    ∃ t d, files.read (Files.tidy name) = .ok (Utf8.encode t) ∧
      Yaml.Document.ofText t.unifyBreaks = .ok d ∧
      (d.outline settingsDepth = .scalar .null ∧ es = [] ∨ d.outline settingsDepth = .map es) := by
  simp only [outlineOfFile]
  constructor
  · intro h
    cases hd : document files (Files.tidy name) with
    | error e =>
        rw [hd] at h
        cases h
    | ok d =>
        rw [hd] at h
        obtain ⟨t, hread, ht⟩ := document_eq_ok_iff.1 hd
        exact ⟨t, d, hread, ht, entriesOf_eq_ok_iff.1 h⟩
  · rintro ⟨t, d, hread, ht, hes⟩
    rw [document_eq_ok_iff.2 ⟨t, hread, ht⟩]
    exact entriesOf_eq_ok_iff.2 hes

end Config

end InlineSecrets
