/-
**What redacting writes, and how it is read.**

Redacting a text with a vault in memory never fails: what is located as a declaration has exactly
the parts that a declaration must have.  Declarations are taken from the last one on, so for each
path and key the value that stands first in the text is the one that is left in the store; all that
is not declared stays as it was.

What is written in the place of a declaration is not always read back.  A declaration ends with a
word character of its value, and so its key may end with any character; a lookup ends with a word
character of its key.  Of a key that ends with other characters, only what is in front of them is
looked up; and behind a key without word characters no lookup is found at all.

Main definitions:

* `InlineSecrets.Vault.Store.Keeps` — a store after entries have been kept in it;
* `InlineSecrets.Vault.Entry.upToWord` — the entry that is looked up in the place of another one.

Main results:

* `InlineSecrets.Tool.exists_run_redact_keeps` — **redacting succeeds for every text, and leaves the
  first value of each path and key;**
* `InlineSecrets.Vault.exists_reads_lookup` — a lookup goes on to the last word character of a key;
* `InlineSecrets.Tool.run_redact_lookup_iff` — **what is kept is looked up under its key exactly
  when the key ends with a word character.**
-/

import InlineSecrets.Proofs.Grammar
import InlineSecrets.Proofs.Relocating

set_option relaxedAutoImplicit false
set_option autoImplicit false

namespace InlineSecrets

open Piece Vault

/-! ### Stores after redacting -/

namespace Vault

/-- **A store in which entries have been kept.**  Of the entries for one path and one key the first
one counts; keys of which there is no entry are as they were, and so are whole secrets at paths of
which there is none. -/
structure Store.Keeps (s s' : Store) (ds : List Entry) : Prop where
  leftmost : ∀ front d back, ds = front ++ d :: back →
    (∀ d' ∈ front, ¬(d'.path = d.path ∧ d'.key = d.key)) →
    s'.held? d.path d.key = some (.text d.value)
  others : ∀ path key, (∀ d ∈ ds, ¬(d.path = path ∧ d.key = key)) →
    s'.held? path key = s.held? path key
  paths : ∀ path, (∀ d ∈ ds, d.path ≠ path) → Assoc.get? s' path = Assoc.get? s path

theorem Store.keeps_withEntries (s : Store) (ds : List Entry) : s.Keeps (s.withEntries ds) ds := by
  constructor
  · intro front d back hds hfront
    have hfind : ds.find? (fun d' => d'.path = d.path ∧ d'.key = d.key) = some d := by
      rw [hds, List.find?_append, List.find?_eq_none.2 (by simpa using hfront)]
      simp
    rw [held?_withEntries, hfind]
    rfl
  · intro path key hds
    rw [held?_withEntries, List.find?_eq_none.2 (by simpa using hds)]
    rfl
  · intro path hds
    exact get?_withEntries_of_ne hds

variable {d : Entry}

/-- The payload of a declaration has its three parts. -/
theorem Entry.IsDeclared.parts_payload (hd : d.IsDeclared) :
    parts 3 d.payload = .ok [d.path, d.key, d.value] := by
  simp only [parts, hd.split_payload]
  rfl

/-- What is located as a declaration declares an entry. -/
theorem isDeclared_of_mem_spans {t : Text} {s : Span} (hs : s ∈ Shape.declaration.spans t) :
    (Entry.ofPayload (s.payload t)).IsDeclared ∧
      s.payload t = (Entry.ofPayload (s.payload t)).payload := by
  obtain ⟨ps, rfl, hps⟩ := exists_reads Shape.lawful_declaration none t
  obtain ⟨k, hk, hpayload⟩ : ∃ k ∈ tokens ps, k.payload = s.payload (text ps) := by
    have hmem := List.mem_map_of_mem (f := fun s => Span.payload s (text ps)) hs
    rw [Shape.spans, map_payload_scan Shape.lawful_declaration hps] at hmem
    exact List.mem_map.1 hmem
  obtain ⟨hd, henvelope⟩ := declaration_ofPayload hps hk
  rw [← hpayload]
  exact ⟨hd, (congrArg Token.payload henvelope).symm⟩

end Vault

namespace Tool

open Splicing

/-- **Redacting keeps exactly what is declared.**  For every text and every vault in memory, what is
located as a declaration has three parts, a path, a key and a value, as it must have; redacting
succeeds and replaces each declaration by a lookup of its path and its key, with one request for
each, from the last one on; and it leaves a store that has the value of the first declaration of
each path and key, and else what it had. -/
theorem exists_run_redact_keeps (wrapTokens : Bool) (t : Text) (e : Entropy) (store : Store)
    (received : List KeyRequest) :
    (∀ s ∈ Shape.declaration.spans t, ∃ d : Entry, Entry.ofPayload (s.payload t) = d ∧
      d.IsDeclared ∧ s.payload t = d.path ++ '#' :: (d.key ++ '#' :: d.value) ∧
      Vault.parts 3 (s.payload t) = .ok [d.path, d.key, d.value]) ∧
    ∃ store', (ofParts none true).run .redact wrapTokens t ⟨e, .memory store received⟩ =
        (.ok (substitute t ((Shape.declaration.spans t).map fun s =>
          (s, lookupMarker ++ (Entry.ofPayload (s.payload t)).location))),
        ⟨e, .memory store' (received ++ ((declared t).map Entry.writing).reverse)⟩) ∧
      store.Keeps store' (declared t) := by
  constructor
  · intro s hs
    obtain ⟨hd, hpayload⟩ := isDeclared_of_mem_spans hs
    refine ⟨_, rfl, hd, hpayload, ?_⟩
    rw [hpayload, hd.ofPayload_payload, hd.parts_payload]
  · obtain ⟨ps, rfl, hps⟩ := exists_reads Shape.lawful_declaration none t
    refine ⟨store.withEntries (declared (text ps)), ?_, store.keeps_withEntries _⟩
    rw [run_keeping wrapTokens hps, substitute_declared hps fun d => lookupMarker ++ d.location,
      text_withTokens, List.map_map]
    simp only [Function.comp_def, Entry.envelope_lookup]

/-- Of two values for one key, the one that stands first is written last, and is left. -/
example : (ofParts none true).run .redact false "vault-secret:p#k#a vault-secret:p#k#b".toList
    zeros = (.ok "vault:p#k vault:p#k".toList, ⟨zeros.entropy,
      .memory [("p".toList, [("k".toList, .text "a".toList)])]
        [.write "p".toList "k".toList (.text "b".toList),
          .write "p".toList "k".toList (.text "a".toList)]⟩) := rfl

end Tool

/-! ### Declarations that are whole texts -/

namespace Vault

open Reference Text

variable {d : Entry}

/-- A path, a key and a value with two separators between them, which are the only ones. -/
theorem Entry.isDeclared_of_isPayload (h : IsPayload 2 d.payload) : d.IsDeclared := by
  obtain ⟨d', hd', hpayload⟩ := Entry.isPayload_iff.1 h
  have hcount := h.split.1
  simp only [Entry.payload, List.count_append, List.count_cons_self] at hcount
  have hpath : '#' ∉ d.path := List.count_eq_zero.1 (by omega)
  have hkey : '#' ∉ d.key := List.count_eq_zero.1 (by omega)
  -- so the two payloads are cut at the same places
  obtain ⟨hpaths, hrest⟩ := append_separator_inj hpath hd'.path.separator_not_mem hpayload
  obtain ⟨hkeys, hvalues⟩ := append_separator_inj hkey hd'.key.separator_not_mem hrest
  obtain ⟨path, key, value⟩ := d
  obtain ⟨path', key', value'⟩ := d'
  subst hpaths hkeys hvalues
  exact hd'

/-- The parts of a declaration that is found as a whole. -/
theorem isDeclared_of_spans {s : Span}
    (hspan : Shape.declaration.spans d.declaration.envelope = [s])
    (hs : s.envelope d.declaration.envelope = d.declaration.envelope) : d.IsDeclared := by
  rw [Entry.envelope_declaration] at hspan hs
  exact Entry.isDeclared_of_isPayload
    (isPayload_of_scan_eq (e := ⟨declarationMarker, 2⟩) hspan hs)

/-! ### Lookups of any key -/

/-- The entry under the key that is looked up, which goes on to its last word character. -/
def Entry.upToWord (d : Entry) : Entry := { d with key := toLastWord d.key }

/-- **A lookup goes on to the last word character of its key,** if there is one. -/
theorem exists_reads_lookup (hd : d.IsLocated) (hkey : toLastWord d.key ≠ []) :
    ∃ tail : Text, d.lookup.envelope = text (.token d.upToWord.lookup :: tail.map .plain) ∧
      d.upToWord.IsLocated ∧
      Reads Shape.lookup.token? none (.token d.upToWord.lookup :: tail.map .plain) := by
  obtain ⟨hword, tail, htail, hnone⟩ := (toLastWord_eq_iff hkey).1 rfl
  have hpart : ∀ c ∈ toLastWord d.key ++ tail, isPart c = true := by
    rw [← htail]
    exact hd.key.2
  have hlocated : d.upToWord.IsLocated :=
    ⟨hd.path, hkey, fun c hc => hpart c (List.mem_append_left _ hc)⟩
  have hrefers : Refers ⟨lookupMarker, 1⟩ d.upToWord.lookup tail := by
    refine ⟨rfl, rfl, .cons hd.path (.last hlocated.key hword), fun c hc => hnone c ?_⟩
    exact (List.takeWhile_prefix isPart).subset hc
  refine ⟨tail, ?_, hlocated, .token ?_ ?_⟩
  · rw [text, text_map_plain, Entry.envelope_lookup, Entry.envelope_lookup, Entry.location,
      Entry.location, List.append_assoc, List.append_assoc, List.cons_append]
    exact congrArg (fun key => lookupMarker ++ (d.path ++ '#' :: key)) htail
  · rw [text_map_plain]
    exact Shape.token?_lookup_eq_some_iff.2 ⟨rfl, tail, rfl, hrefers⟩
  · -- behind the lookup there is no word character, and so no marker
    refine reads_map_plain fun before n hn => token?_of_not_marked (fun h => ?_) before
    have hv : 'v' ∈ tail.drop n := h.subset (by decide)
    have hfalse := hnone 'v' (List.mem_of_mem_drop hv)
    exact absurd hfalse (by decide)

/-- A key without word characters is not looked up, and nothing else is. -/
theorem reads_of_toLastWord_eq_nil (hd : d.IsLocated) (hkey : toLastWord d.key = []) :
    Reads Shape.lookup.token? none (d.lookup.envelope.map .plain) := by
  refine reads_map_plain fun before n hn => ?_
  rw [← Option.not_isSome_iff_eq_none, Option.isSome_iff_exists]
  rintro ⟨k, hk⟩
  obtain ⟨-, r, hdrop, hrefers⟩ := Shape.token?_lookup_eq_some_iff.1 hk
  obtain ⟨p, q, hpayload, hword⟩ : ∃ p q, k.payload = p ++ '#' :: q ∧ EndsInWord q := by
    have h := hrefers.isPayload
    generalize k.payload = payload at h
    cases h with
    | cons hp hq => exact ⟨_, _, rfl, hq.endsInWord⟩
  -- the one separator stands in front of the key, so the last run of the lookup lies in it
  have htext : (lookupMarker ++ d.path) ++ '#' :: d.key =
      (d.lookup.envelope.take n ++ (lookupMarker ++ p)) ++ '#' :: (q ++ r) := by
    calc (lookupMarker ++ d.path) ++ '#' :: d.key = d.lookup.envelope := by
          rw [Entry.envelope_lookup, Entry.location, List.append_assoc]
      _ = d.lookup.envelope.take n ++ (k.envelope ++ r) := by
          rw [← hdrop, List.take_append_drop]
      _ = _ := by
          rw [hrefers.envelope_eq, hpayload]
          simp only [List.append_assoc, List.cons_append]
  have hmarker : '#' ∉ lookupMarker ++ d.path := by
    rw [List.mem_append, not_or]
    exact ⟨by decide, hd.path.separator_not_mem⟩
  obtain ⟨-, -, hqr⟩ := (List.append_cons_inj_of_notMem hmarker hd.key.separator_not_mem).1 htext
  rw [hqr, toLastWord_append hword] at hkey
  exact hword.ne_nil (List.append_eq_nil_iff.1 hkey).1

/-- Following a reference to an entry asks for its path and its key, whatever the answer is. -/
theorem snd_lookUp_location (hd : d.IsLocated) (c : Client) :
    (lookUp d.location c).2 = (c.read d.path d.key).2 := by
  have hparts : parts 2 d.location = .ok [d.path, d.key] := by
    simp only [parts, hd.split_location]
    rfl
  rw [lookUp, hparts]
  simp only [List.getD_cons_zero, List.getD_cons_succ]
  rcases c.read d.path d.key with ⟨_ | _ | v, c'⟩ <;> rfl

end Vault

/-! ### Reading back -/

namespace Tool

open Reference Text

variable {d : Entry}

/-- The engine that looks lookups up, whether or not it is to wrap tokens. -/
theorem exists_engine_unredacting (wrapTokens : Bool) :
    ∃ (e : Engine World Cause) (place : Splicing.Placing),
      Family.vault.engine? .unredact = some e ∧ (∀ t, e.locate t = .ok (Shape.lookup.spans t)) ∧
      e.transform = Family.lookingUp ∧ e.placing? wrapTokens = some place := by
  cases wrapTokens <;> exact ⟨_, _, rfl, fun _ => rfl, rfl, rfl⟩

/-- **What is asked for a lookup:** its path, and its key up to the last word character. -/
theorem exists_spans_lookup (hd : d.IsLocated) (hkey : toLastWord d.key ≠ []) :
    ∃ s, Shape.lookup.spans d.lookup.envelope = [s] ∧
      s.payload d.lookup.envelope = d.path ++ '#' :: toLastWord d.key ∧
      ∀ wrapTokens w, ((ofParts none true).run .unredact wrapTokens d.lookup.envelope w).2.vault =
        (w.vault.read d.path (toLastWord d.key)).2 := by
  obtain ⟨tail, htext, hlocated, hreads⟩ := exists_reads_lookup hd hkey
  have hspans : Shape.lookup.spans d.lookup.envelope = [d.upToWord.lookup.span 0] := by
    rw [htext, Shape.spans_text hreads, spansFrom, spansFrom_map_plain]
  have hpayload : (d.upToWord.lookup.span 0).payload d.lookup.envelope = d.upToWord.location := by
    rw [htext, text]
    exact (span_slices d.upToWord.lookup [] _).1
  refine ⟨_, hspans, hpayload, fun wrapTokens w => ?_⟩
  obtain ⟨e, place, he, hlocate, htransform, hplace⟩ := exists_engine_unredacting wrapTokens
  have hone : e.locate d.lookup.envelope = .ok [d.upToWord.lookup.span 0] := by
    rw [hlocate, hspans]
  rw [ofParts_vault, run_singleton he, Engine.snd_run_of_singleton hplace hone, hpayload,
    htransform]
  exact snd_lookUp_location hlocated w.vault

/-- **Nothing is asked** for a lookup of a key without word characters, and it stays as it is. -/
theorem spans_lookup_eq_nil (hd : d.IsLocated) (hkey : toLastWord d.key = []) :
    Shape.lookup.spans d.lookup.envelope = [] ∧
      ∀ wrapTokens w, (ofParts none true).run .unredact wrapTokens d.lookup.envelope w =
        (.ok d.lookup.envelope, w) := by
  have hspans : Shape.lookup.spans d.lookup.envelope = [] := by
    have h := Shape.spans_text (s := .lookup) (reads_of_toLastWord_eq_nil hd hkey)
    rw [text_map_plain] at h
    rw [h, spansFrom_map_plain]
  refine ⟨hspans, fun wrapTokens w => ?_⟩
  obtain ⟨e, place, he, hlocate, -, hplace⟩ := exists_engine_unredacting wrapTokens
  rw [ofParts_vault, run_singleton he, Engine.run_of_nil hplace (by rw [hlocate, hspans])]

/-- What was written is found, as a whole, exactly when the key ends with a word character. -/
theorem exists_spans_location_iff (hd : d.IsLocated) :
    (∃ s, Shape.lookup.spans d.lookup.envelope = [s] ∧
      s.payload d.lookup.envelope = d.location) ↔ EndsInWord d.key := by
  rw [← toLastWord_eq_self_iff hd.key.1]
  constructor
  · rintro ⟨s, hspans, hpayload⟩
    by_cases hkey : toLastWord d.key = []
    · rw [(spans_lookup_eq_nil hd hkey).1] at hspans
      cases hspans
    · obtain ⟨s', hspans', hpayload', -⟩ := exists_spans_lookup hd hkey
      obtain rfl : s' = s := by
        rw [hspans'] at hspans
        exact (List.cons.inj hspans).1
      rw [hpayload, Entry.location] at hpayload'
      exact (append_separator_inj hd.path.separator_not_mem hd.path.separator_not_mem
        hpayload').2.symm
  · intro hsame
    obtain ⟨s, hspans, hpayload, -⟩ := exists_spans_lookup hd (by rw [hsame]; exact hd.key.1)
    rw [hsame] at hpayload
    exact ⟨s, hspans, hpayload⟩

/-- **A lookup is read as it was written exactly when its key ends with a word character.**  For a
declaration that is a whole text, and any vault in memory, redacting keeps the value under the path
and the key and yields their lookup.  In that, a lookup of this path and this key is found if and
only if the key ends with a word character.  Of any other key, unredacting asks for what goes up to
its last word character; when it has none, no lookup is found, and the text stays as it is. -/
theorem run_redact_lookup_iff (wrapTokens : Bool) {path key value : Text} {s : Span}
    (hspan : Shape.declaration.spans
      (declarationMarker ++ (path ++ '#' :: (key ++ '#' :: value))) = [s])
    (hs : s.envelope (declarationMarker ++ (path ++ '#' :: (key ++ '#' :: value))) =
      declarationMarker ++ (path ++ '#' :: (key ++ '#' :: value)))
    (e : Entropy) (store : Store) (received : List KeyRequest) :
    ∃ t', (ofParts none true).run .redact wrapTokens
        (declarationMarker ++ (path ++ '#' :: (key ++ '#' :: value)))
        ⟨e, .memory store received⟩ =
        (.ok t', ⟨e, .memory (store.write path key (.text value))
          (received ++ [.write path key (.text value)])⟩) ∧
      t' = lookupMarker ++ (path ++ '#' :: key) ∧
      ((∃ s', Shape.lookup.spans t' = [s'] ∧ s'.payload t' = path ++ '#' :: key) ↔
        EndsInWord key) ∧
      ((∀ c ∈ key, isWord c = false) → Shape.lookup.spans t' = [] ∧
        ∀ wrapTokens w, (ofParts none true).run .unredact wrapTokens t' w = (.ok t', w)) ∧
      ((∃ c ∈ key, isWord c = true) → ∃ s', Shape.lookup.spans t' = [s'] ∧
        s'.payload t' = path ++ '#' :: toLastWord key ∧
        ∀ wrapTokens w, ((ofParts none true).run .unredact wrapTokens t' w).2.vault =
          (w.vault.read path (toLastWord key)).2) := by
  let d : Entry := ⟨path, key, value⟩
  have ht : declarationMarker ++ (path ++ '#' :: (key ++ '#' :: value)) =
      d.declaration.envelope := d.envelope_declaration.symm
  rw [ht] at hspan hs ⊢
  have hd := isDeclared_of_spans hspan hs
  have hlookup : lookupMarker ++ (path ++ '#' :: key) = d.lookup.envelope :=
    d.envelope_lookup.symm
  refine ⟨d.lookup.envelope, run_kept wrapTokens hd e store received, hlookup.symm, ?_, ?_, ?_⟩
  · exact exists_spans_location_iff hd.toIsLocated
  · intro hnone
    exact spans_lookup_eq_nil hd.toIsLocated (toLastWord_eq_nil_iff.2 hnone)
  · rintro ⟨c, hc, hword⟩
    refine exists_spans_lookup hd.toIsLocated fun hnil => ?_
    have hfalse := toLastWord_eq_nil_iff.1 hnil c hc
    rw [hword] at hfalse
    cases hfalse

/-- A key that ends with a word character behind a dot, at a path without word characters. -/
theorem run_redact_lookup_iff_dotted :
    ∃ t', (ofParts none true).run .redact false
        (declarationMarker ++ ("/".toList ++ '#' :: ("-k.x".toList ++ '#' :: "v".toList)))
        overwritten =
        (.ok t', ⟨overwritten.entropy, .memory
          (Store.write [("p/q".toList, [("k.x".toList, .text "old".toList)])] "/".toList
            "-k.x".toList (.text "v".toList))
          [.write "/".toList "-k.x".toList (.text "v".toList)]⟩) ∧
      t' = lookupMarker ++ ("/".toList ++ '#' :: "-k.x".toList) ∧
      ((∃ s', Shape.lookup.spans t' = [s'] ∧ s'.payload t' = "/".toList ++ '#' :: "-k.x".toList) ↔
        EndsInWord "-k.x".toList) ∧
      ((∀ c ∈ "-k.x".toList, isWord c = false) → Shape.lookup.spans t' = [] ∧
        ∀ wrapTokens w, (ofParts none true).run .unredact wrapTokens t' w = (.ok t', w)) ∧
      ((∃ c ∈ "-k.x".toList, isWord c = true) → ∃ s', Shape.lookup.spans t' = [s'] ∧
        s'.payload t' = "/".toList ++ '#' :: toLastWord "-k.x".toList ∧
        ∀ wrapTokens w, ((ofParts none true).run .unredact wrapTokens t' w).2.vault =
          (w.vault.read "/".toList (toLastWord "-k.x".toList)).2) := by
  have hspan : Shape.declaration.spans
      (declarationMarker ++ ("/".toList ++ '#' :: ("-k.x".toList ++ '#' :: "v".toList))) =
      [⟨0, 13, 21, 21⟩] := by decide +kernel
  exact run_redact_lookup_iff false hspan (by decide) overwritten.entropy _ []

/-- **A key that ends with a hyphen is not looked up again:** what is kept under it is asked for
without the hyphen; and a key that is a hyphen is not asked for at all. -/
theorem run_redact_lookup_trailing :
    Shape.declaration.spans "vault-secret:p#k-#v".toList = [⟨0, 13, 19, 19⟩] ∧
      ((ofParts none true).run .redact false "vault-secret:p#k-#v".toList zeros).1 =
        .ok "vault:p#k-".toList ∧
      Shape.lookup.spans "vault:p#k-".toList = [⟨0, 6, 9, 9⟩] ∧
      (⟨0, 6, 9, 9⟩ : Span).payload "vault:p#k-".toList = "p#k".toList ∧
      Shape.declaration.spans "vault-secret:p#-#v".toList = [⟨0, 13, 18, 18⟩] ∧
      ((ofParts none true).run .redact false "vault-secret:p#-#v".toList zeros).1 =
        .ok "vault:p#-".toList ∧
      Shape.lookup.spans "vault:p#-".toList = [] :=
  ⟨rfl, rfl, rfl, rfl, rfl, rfl, rfl⟩

end Tool

end InlineSecrets
