/-
**Looked-up values as declarations.**

Unredacting with wrapped tokens makes a declaration of a lookup: the value is written behind the
path and the key that it was found under.  Redacting that text again does not always lead back.  The
value of a declaration has neither blanks nor separators and ends with a word character, and a value
in the vault may be any text.  Of a value that is not like that, at most a beginning is read as the
value of the declaration, and this takes the place of the value in the vault; or no declaration is
found at all, and the text stays unredacted.

Main results:

* `InlineSecrets.Vault.Store.write_of_read?` — writing what is there changes nothing;
* `InlineSecrets.Tool.run_run_located_iff` — **the way back leads to the same text and the same
  store exactly for the values that declarations can name;**
* `InlineSecrets.Tool.run_run_spaced` — a value with a blank is lost.
-/

import InlineSecrets.Proofs.Keeping

set_option relaxedAutoImplicit false
set_option autoImplicit false

namespace InlineSecrets

/-! ### Writing what is there -/

theorem Assoc.set_of_get? {κ α : Type} [DecidableEq κ] {m : Assoc κ α} {x : κ} {v : α}
    (h : m.get? x = some v) : m.set x v = m := by
  induction m with
  | nil => cases h
  | cons e r ih =>
      obtain ⟨k, w⟩ := e
      by_cases hk : k = x
      · rw [get?_cons, if_pos hk] at h
        cases h
        rw [set, if_pos hk]
      · rw [get?_cons, if_neg hk] at h
        rw [set, if_neg hk, ih h]

namespace Vault

open Piece Reference Text

theorem Store.write_of_read? {s : Store} {path key : Text} {v : Json}
    (h : s.read? path key = some v) : s.write path key v = s := by
  obtain ⟨v', hget, hv'⟩ := Option.bind_eq_some_iff.1 h
  obtain rfl : v' = v := by
    cases v' <;> simp_all [Json.nonNull?]
  cases hsecret : Assoc.get? s path with
  | none =>
      rw [secret, hsecret] at hget
      cases hget
  | some es =>
      rw [secret, hsecret, Option.getD_some] at hget
      rw [write, secret, hsecret, Option.getD_some, Assoc.set_of_get? hget,
        Assoc.set_of_get? hsecret]

/-! ### A lookup that is the whole text -/

variable {d : Entry}

/-- A path and a key with one separator between them, which is the only one. -/
theorem Entry.isLocated_of_isPayload (h : IsPayload 1 d.location) :
    d.IsLocated ∧ EndsInWord d.key := by
  generalize hlocation : d.location = p at h
  cases h with
  | @cons _ p q hp hq =>
      cases hq with
      | last hq hword =>
          obtain ⟨rfl, -, rfl⟩ := (List.append_cons_inj_of_notMem hp.separator_not_mem
            hq.separator_not_mem).1 hlocation.symm
          exact ⟨⟨hp, hq⟩, hword⟩

/-- The path and the key of a lookup that is found as a whole. -/
theorem isLocated_of_spans {s : Span} (hspan : Shape.lookup.spans d.lookup.envelope = [s])
    (hs : s.envelope d.lookup.envelope = d.lookup.envelope) :
    d.IsLocated ∧ EndsInWord d.key := by
  rw [Entry.envelope_lookup] at hspan hs
  exact Entry.isLocated_of_isPayload (isPayload_of_scan_eq (e := ⟨lookupMarker, 1⟩) hspan hs)

/-- A lookup on its own is found. -/
theorem reads_lookup (hd : d.IsLocated) (hkey : EndsInWord d.key) :
    Reads Shape.lookup.token? none [.token d.lookup] :=
  .token (Shape.token?_lookup_eq_some_iff.2 ⟨rfl, [], rfl, hd.refers_lookup hkey⟩) .nil

/-- A declaration on its own is found, when the value is one. -/
theorem reads_declaration (hd : d.IsDeclared) :
    Reads Shape.declaration.token? none [.token d.declaration] := by
  have hrefers : Refers ⟨declarationMarker, 2⟩ d.declaration [] :=
    ⟨rfl, rfl, Entry.isPayload_iff.2 ⟨d, hd, rfl⟩, settled_nil⟩
  exact .token (Shape.token?_declaration_eq_some_iff.2 ⟨rfl, [], rfl, hrefers⟩) .nil

/-! ### A text that begins like a declaration -/

/-- When a declaration is found where that of `d` was written, it has the same path and key. -/
theorem location_eq_of_prefix {d' : Entry} (hd : d.IsLocated) (hd' : d'.IsLocated) {r : Text}
    (h : d.payload = d'.payload ++ r) : d'.path = d.path ∧ d'.key = d.key := by
  simp only [Entry.payload, List.append_assoc, List.cons_append] at h
  obtain ⟨hpath, h⟩ := append_separator_inj hd.path.separator_not_mem hd'.path.separator_not_mem h
  obtain ⟨hkey, -⟩ := append_separator_inj hd.key.separator_not_mem hd'.key.separator_not_mem h
  exact ⟨hpath.symm, hkey.symm⟩

/-- Where all tokens begin with `c`, a beginning of the text without `c` stays where it is, whatever
is put into the text. -/
theorem prefix_text_withTokens {c : Char} {ps : List Piece}
    (hc : ∀ k ∈ tokens ps, [c] <+: k.envelope) {g : Text} (hg : c ∉ g) (hbegins : g <+: text ps)
    (ks : List Token) : g <+: text (withTokens ps ks) := by
  induction ps generalizing g with
  | nil => exact hbegins
  | cons p ps ih =>
      cases g with
      | nil => exact List.nil_prefix
      | cons a g =>
          obtain ⟨hca, hg'⟩ := not_or.1 (mt List.mem_cons.2 hg)
          cases p with
          | plain a' =>
              obtain ⟨rfl, hbegins'⟩ := List.cons_prefix_cons.1 hbegins
              exact List.cons_prefix_cons.2 ⟨rfl, ih hc hg' hbegins'⟩
          | token k =>
              obtain ⟨b, hb⟩ := hc k List.mem_cons_self
              rw [text, ← hb] at hbegins
              exact absurd (List.cons_prefix_cons.1 hbegins).1.symm hca

end Vault

/-! ### There and back -/

namespace Tool

open Piece Reference Splicing Vault

variable {d : Entry} {w : World} {store : Store} {received : List KeyRequest}

/-- **There:** a lookup on its own gives way to the declaration of its entry. -/
theorem exists_run_lookup (hd : d.IsLocated) (hkey : Text.EndsInWord d.key)
    (hstore : store.read? d.path d.key = some (.text d.value))
    (hw : w.vault = .memory store received) :
    ∃ w' received', (ofParts none true).run .unredact true d.lookup.envelope w =
        (.ok d.declaration.envelope, w') ∧
      w'.vault = .memory store received' := by
  obtain ⟨e, he, hlocate, htransform, hwrapped, -⟩ := exists_engine_lookingUp
  have htext : text [.token d.lookup] = d.lookup.envelope := List.append_nil _
  have hds : ∀ d' ∈ [d], d'.IsLocated := by simpa using hd
  have hreads : ∀ d' ∈ [d], store.read? d'.path d'.key = some (.text d'.value) := by
    simpa using hstore
  obtain ⟨w', received', hrun, hw'⟩ :=
    exists_run_lookingUp hlocate htransform hwrapped (reads_lookup hd hkey) rfl hds hreads hw
  refine ⟨w', received', ?_, hw'⟩
  rw [ofParts_vault, run_singleton he, ← htext, hrun]
  simp [fill, Entry.location_append, Entry.declaration]

/-- A declaration on its own gives way to a lookup of its entry, which is kept. -/
theorem run_kept (wrapTokens : Bool) (hd : d.IsDeclared) (e : Entropy) (store : Store)
    (received : List KeyRequest) :
    (ofParts none true).run .redact wrapTokens d.declaration.envelope ⟨e, .memory store received⟩ =
      (.ok d.lookup.envelope, ⟨e, .memory (store.write d.path d.key (.text d.value))
        (received ++ [d.writing])⟩) := by
  have htext : text [.token d.declaration] = d.declaration.envelope := List.append_nil _
  have hreads := reads_declaration hd
  have hdeclared : declared (text [.token d.declaration]) = [d] := by
    rw [declared_text hreads]
    exact congrArg (fun d => [d]) hd.ofPayload_payload
  have hrun := run_keeping wrapTokens hreads e store received
  rw [hdeclared, htext] at hrun
  exact hrun.trans (congrArg (fun t => (Except.ok t, _)) (List.append_nil d.lookup.envelope))

/-- The same for a store behind a world. -/
theorem exists_run_kept (wrapTokens : Bool) (hd : d.IsDeclared)
    (hw : w.vault = .memory store received) :
    ∃ w' received', (ofParts none true).run .redact wrapTokens d.declaration.envelope w =
        (.ok d.lookup.envelope, w') ∧
      w'.vault = .memory (store.write d.path d.key (.text d.value)) received' := by
  obtain ⟨e, client⟩ := w
  obtain rfl : client = .memory store received := hw
  exact ⟨_, _, run_kept wrapTokens hd e store received, rfl⟩

/-- **And back,** for a value that a declaration can name: the same text, and the same store. -/
theorem exists_run_declaration (wrapTokens : Bool) (hd : d.IsDeclared)
    (hstore : store.read? d.path d.key = some (.text d.value))
    (hw : w.vault = .memory store received) :
    ∃ w' received', (ofParts none true).run .redact wrapTokens d.declaration.envelope w =
        (.ok d.lookup.envelope, w') ∧
      w'.vault = .memory store received' := by
  obtain ⟨w', received', hrun, hw'⟩ := exists_run_kept wrapTokens hd hw
  exact ⟨w', received', hrun, hw'.trans
    (congrArg (Client.memory · received') (Store.write_of_read? hstore))⟩

/-- What takes the place of a declaration does not begin like one, unless that one was found. -/
theorem not_text_eq_lookup {before : Option Char} {c : Char} {ps : List Piece} {ks : List Token}
    (hps : Reads Shape.declaration.token? before ps)
    (htext : text (plain c :: ps) = d.declaration.envelope) :
    text (withTokens (plain c :: ps) ks) ≠ d.lookup.envelope := by
  intro hlookup
  have hdeclaration : declarationMarker = 'v' :: ("ault-".toList ++ "secret:".toList) := by decide
  have hmarker : lookupMarker = 'v' :: "ault:".toList := by decide
  rw [Entry.envelope_declaration, hdeclaration, List.cons_append, List.append_assoc] at htext
  rw [Entry.envelope_lookup, hmarker, List.cons_append] at hlookup
  have hstays : "ault-".toList <+: text ps := ⟨_, (List.cons.inj htext).2.symm⟩
  -- no declaration begins with what is behind the first character, so that stays
  have hv : ∀ k ∈ tokens ps, ['v'] <+: k.envelope := by
    intro k hk
    obtain ⟨before, t, hfind⟩ := hps.exists_find hk
    obtain ⟨-, r, -, hrefers⟩ := Shape.token?_declaration_eq_some_iff.1 hfind
    rw [hrefers.envelope_eq, hdeclaration]
    exact ⟨_, rfl⟩
  have hbegins := prefix_text_withTokens hv (by decide) hstays ks
  have hlocation : "ault:".toList <+: text (withTokens ps ks) := ⟨_, (List.cons.inj hlookup).2.symm⟩
  exact absurd (List.prefix_of_prefix_length_le hbegins hlocation (by decide)) (by decide)

/-- **And back,** for a value that it leads back for: a declaration can name it. -/
theorem isDeclared_of_run_declaration {wrapTokens : Bool} {w' : World} {received' : List KeyRequest}
    (hd : d.IsLocated) (hstore : store.read? d.path d.key = some (.text d.value))
    (hw : w.vault = .memory store received)
    (hrun : (ofParts none true).run .redact wrapTokens d.declaration.envelope w =
      (.ok d.lookup.envelope, w'))
    (hw' : w'.vault = .memory store received') :
    d.IsDeclared := by
  obtain ⟨ps, htext, hps⟩ := exists_reads Shape.lawful_declaration none d.declaration.envelope
  obtain ⟨w₁, received₁, hrun₁, hw₁⟩ := exists_run_keeping wrapTokens hps hw
  rw [← htext, hrun₁] at hrun
  obtain ⟨hlookup, rfl⟩ := Prod.mk.inj hrun
  -- the store is what it was, with the entries of the text in it
  have hkept : store.withEntries (declared (text ps)) = store := by
    rw [hw'] at hw₁
    exact (Client.memory.inj hw₁).1.symm
  have hreads := hps
  cases hps with
  | nil => cases htext
  | plain _ hps => exact absurd (Except.ok.inj hlookup) (not_text_eq_lookup hps htext)
  | @token _ k ps _ _ =>
      obtain ⟨hd', hk⟩ := declaration_ofPayload hreads List.mem_cons_self
      rw [declared_text hreads, tokens, List.map_cons] at hkept
      generalize Entry.ofPayload k.payload = d' at hd' hk hkept
      subst hk
      have hpayload : d.payload = d'.payload ++ text ps := by
        rw [text, Entry.envelope_declaration, Entry.envelope_declaration,
          List.append_assoc] at htext
        exact (List.append_cancel_left htext).symm
      obtain ⟨hpath, hkey⟩ := location_eq_of_prefix hd hd'.toIsLocated hpayload
      -- the value that was found is the one that is kept
      have hread : store.read? d.path d.key = some (.text d'.value) := by
        rw [← hkept, Store.read?_withEntries]
        simp [hpath, hkey]
      obtain hvalue : d.value = d'.value := by
        rw [hstore] at hread
        exact Json.text.inj (Option.some.inj hread)
      exact ⟨hd, hvalue ▸ hd'.value, hvalue ▸ hd'.endsInWord⟩

/-- **A value that was looked up is kept again exactly when a declaration can name it.**  For a
lookup that is a whole text, and a store in memory that holds a text under its path and its key,
unredacting with wrapped tokens and redacting again succeed; they lead back to the text and leave
the store as it was, if and only if the value has neither blanks nor separators and ends with a word
character. -/
theorem run_run_located_iff (wrapTokens : Bool) {path key v : Text} {s : Span}
    (hspan : Shape.lookup.spans (lookupMarker ++ (path ++ '#' :: key)) = [s])
    (hs : s.envelope (lookupMarker ++ (path ++ '#' :: key)) =
      lookupMarker ++ (path ++ '#' :: key))
    (hstore : store.read? path key = some (.text v)) (hw : w.vault = .memory store received) :
    ∃ t₁ w₁ t₂ w₂ store₂ received₂,
      (ofParts none true).run .unredact true (lookupMarker ++ (path ++ '#' :: key)) w =
        (.ok t₁, w₁) ∧
      (ofParts none true).run .redact wrapTokens t₁ w₁ = (.ok t₂, w₂) ∧
      w₂.vault = .memory store₂ received₂ ∧
      (t₂ = lookupMarker ++ (path ++ '#' :: key) ∧ store₂ = store ↔
        IsRun v ∧ Text.EndsInWord v) := by
  let d : Entry := ⟨path, key, v⟩
  have ht : lookupMarker ++ (path ++ '#' :: key) = d.lookup.envelope := d.envelope_lookup.symm
  rw [ht] at hspan hs ⊢
  obtain ⟨hd, hkey⟩ := isLocated_of_spans hspan hs
  obtain ⟨w₁, received₁, hthere, hw₁⟩ := exists_run_lookup hd hkey hstore hw
  obtain ⟨ps, htext, hps⟩ := exists_reads Shape.lawful_declaration none d.declaration.envelope
  obtain ⟨w₂, received₂, hback, hw₂⟩ := exists_run_keeping wrapTokens hps hw₁
  rw [htext] at hback hw₂
  refine ⟨_, w₁, _, w₂, _, received₂, hthere, hback, hw₂, fun h => ?_, fun h => ?_⟩
  · rw [h.1] at hback
    rw [h.2] at hw₂
    have hdeclared := isDeclared_of_run_declaration hd hstore hw₁ hback hw₂
    exact ⟨hdeclared.value, hdeclared.endsInWord⟩
  · obtain ⟨w₃, received₃, hsame, hw₃⟩ :=
      exists_run_declaration wrapTokens ⟨hd, h.1, h.2⟩ hstore hw₁
    rw [hback] at hsame
    obtain ⟨hlookup, rfl⟩ := Prod.mk.inj hsame
    rw [hw₂] at hw₃
    exact ⟨Except.ok.inj hlookup, (Client.memory.inj hw₃).1⟩

/-- A vault with one secret of one key. -/
def keyed (v : Text) : World :=
  ⟨⟨fun _ n => Vector.replicate n 0, 0⟩, .memory [("p".toList, [("k".toList, .text v)])] []⟩

/-- A value with a dot and a comma in it is kept again. -/
theorem run_run_located_dotted :
    ∃ t₁ w₁ t₂ w₂ store₂ received₂,
      (ofParts none true).run .unredact true "vault:p#k".toList (keyed "a.b,c".toList) =
        (.ok t₁, w₁) ∧
      (ofParts none true).run .redact false t₁ w₁ = (.ok t₂, w₂) ∧
      w₂.vault = .memory store₂ received₂ ∧
      (t₂ = "vault:p#k".toList ∧ store₂ = [("p".toList, [("k".toList, .text "a.b,c".toList)])] ↔
        IsRun "a.b,c".toList ∧ Text.EndsInWord "a.b,c".toList) := by
  have hspan : Shape.lookup.spans (lookupMarker ++ ("p".toList ++ '#' :: "k".toList)) =
      [⟨0, 6, 9, 9⟩] := by decide +kernel
  exact run_run_located_iff false hspan (by decide) rfl rfl

/-- **A value with a blank is lost:** its first word is kept in its place, and the rest of it stays
in the text. -/
theorem run_run_spaced :
    let there := (ofParts none true).run .unredact true "vault:p#k".toList (keyed "a b".toList)
    let back := (ofParts none true).run .redact false "vault-secret:p#k#a b".toList there.2
    Shape.lookup.spans "vault:p#k".toList = [⟨0, 6, 9, 9⟩] ∧
      there.1 = .ok "vault-secret:p#k#a b".toList ∧ back.1 = .ok "vault:p#k b".toList ∧
      back.2.vault = .memory [("p".toList, [("k".toList, .text "a".toList)])]
        [.read "p".toList "k".toList, .write "p".toList "k".toList (.text "a".toList)] :=
  ⟨rfl, rfl, rfl, rfl⟩

end Tool

end InlineSecrets
