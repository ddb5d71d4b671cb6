/-
**Secrets kept in a vault are looked up again.**

Redacting puts the values of declarations into a vault, and lookups in their places.  Of several
values for one path and key the one that stands first in the text is kept, since declarations are
taken from the last one on.

A lookup ends where its key ends with a word character; what is left of the run in which the value
stood does not lengthen it.  So when all declared keys end like that, and the text did not hold the
marker of lookups, the way back looks up what was kept, path by path and key by key: it yields the
text as it was, or the text with its declarations replaced by their values.

Main definitions:

* `InlineSecrets.Vault.Entry` — a value under a path and a key, with its `declaration` and its
  `lookup`;
* `InlineSecrets.Vault.declared` — the entries that a text declares;
* `InlineSecrets.Vault.Store.withEntries` — a store in which entries are kept;
* `InlineSecrets.Vault.Store.held?` — what a store has at a key.

Main results:

* `InlineSecrets.Vault.Store.held?_withEntries` — the first entry for a path and a key is kept;
* `InlineSecrets.Vault.reads_lookups` — lookups put in the places of declarations are found there;
* `InlineSecrets.Tool.run_keeping` — **redacting keeps what the text declares;**
* `InlineSecrets.Tool.run_run_kept` — **a redacted text is unredacted again.**
-/

import InlineSecrets.Proofs.References
import InlineSecrets.Proofs.Sealing

set_option relaxedAutoImplicit false
set_option autoImplicit false

namespace InlineSecrets

namespace Vault

open Text Reference

/-! ### Entries -/

/-- A value under a path and a key. -/
structure Entry where
  path : Text
  key : Text
  value : Text
  deriving DecidableEq, Repr

namespace Entry

/-- The entry that a payload declares. -/
def ofPayload (t : Text) : Entry :=
  let ps := t.split '#'
  ⟨ps.getD 0 [], ps.getD 1 [], ps.getD 2 []⟩

/-- The path and the key, as a lookup names them. -/
def location (d : Entry) : Text := d.path ++ '#' :: d.key

/-- The path, the key and the value, as a declaration names them. -/
def payload (d : Entry) : Text := d.path ++ '#' :: (d.key ++ '#' :: d.value)

/-- The token that looks an entry up. -/
def lookup (d : Entry) : Token := ⟨lookupMarker, d.location, []⟩

/-- The token that declares an entry. -/
def declaration (d : Entry) : Token := ⟨declarationMarker, d.payload, []⟩

@[simp] theorem envelope_lookup (d : Entry) :
    d.lookup.envelope = lookupMarker ++ d.location := List.append_nil _

@[simp] theorem envelope_declaration (d : Entry) :
    d.declaration.envelope = declarationMarker ++ d.payload := List.append_nil _

theorem location_append (d : Entry) : d.location ++ '#' :: d.value = d.payload := by
  simp [location, payload]

/-- The request that keeps an entry. -/
def writing (d : Entry) : KeyRequest := .write d.path d.key (.text d.value)

/-- The entries that lookups can name. -/
structure IsLocated (d : Entry) : Prop where
  path : IsRun d.path
  key : IsRun d.key

/-- The entries that declarations can name. -/
structure IsDeclared (d : Entry) : Prop extends d.IsLocated where
  value : IsRun d.value
  endsInWord : EndsInWord d.value

variable {d : Entry}

/-- **The payloads of declarations** are those of entries. -/
theorem isPayload_iff {p : Text} : IsPayload 2 p ↔ ∃ d : Entry, d.IsDeclared ∧ p = d.payload := by
  constructor
  · intro h
    cases h with
    | cons hpath h =>
        cases h with
        | cons hkey h =>
            cases h with
            | last hvalue hword => exact ⟨⟨_, _, _⟩, ⟨⟨hpath, hkey⟩, hvalue, hword⟩, rfl⟩
  · rintro ⟨d, hd, rfl⟩
    exact .cons hd.path (.cons hd.key (.last hd.value hd.endsInWord))

theorem IsLocated.split_location (hd : d.IsLocated) :
    d.location.split '#' = [d.path, d.key] := by
  rw [location, split_append_cons hd.path.separator_not_mem,
    split_of_not_mem hd.key.separator_not_mem]

theorem IsDeclared.split_payload (hd : d.IsDeclared) :
    d.payload.split '#' = [d.path, d.key, d.value] := by
  rw [payload, split_append_cons hd.path.separator_not_mem,
    split_append_cons hd.key.separator_not_mem, split_of_not_mem hd.value.separator_not_mem]

theorem IsDeclared.ofPayload_payload (hd : d.IsDeclared) : ofPayload d.payload = d := by
  simp [ofPayload, hd.split_payload]

/-- A token looks an entry up when the key ends with a word character. -/
theorem IsLocated.refers_lookup (hd : d.IsLocated) (hkey : EndsInWord d.key) :
    Refers ⟨lookupMarker, 1⟩ d.lookup [] :=
  ⟨rfl, rfl, .cons hd.path (.last hd.key hkey), settled_nil⟩

end Entry

/-! ### Stores with entries -/

/-- The store in which entries are kept, the last one first. -/
def Store.withEntries (s : Store) (ds : List Entry) : Store :=
  ds.foldr (fun d s => s.write d.path d.key (.text d.value)) s

/-- What a store has at a key, null or not. -/
def Store.held? (s : Store) (path key : Text) : Option Json := Assoc.get? (s.secret path) key

theorem Store.read?_eq_bind_held? (s : Store) (path key : Text) :
    s.read? path key = (s.held? path key).bind Json.nonNull? := rfl

theorem Store.held?_write (s : Store) (path key : Text) (value : Json) (path' key' : Text) :
    (s.write path key value).held? path' key' =
      if path = path' ∧ key = key' then some value else s.held? path' key' := by
  by_cases hpath : path = path'
  · subst hpath
    simp [held?, secret, write, Assoc.get?_set]
  · simp [held?, secret, write, hpath, Assoc.get?_set_of_ne]

theorem Store.withEntries_cons (s : Store) (d : Entry) (ds : List Entry) :
    s.withEntries (d :: ds) = (s.withEntries ds).write d.path d.key (.text d.value) := rfl

/-- **The first entry for a path and a key is kept,** and other keys are as they were. -/
theorem Store.held?_withEntries (s : Store) (ds : List Entry) (path key : Text) :
    (s.withEntries ds).held? path key =
      ((ds.find? fun d => d.path = path ∧ d.key = key).map fun d => .text d.value).or
        (s.held? path key) := by
  induction ds with
  | nil => simp [withEntries]
  | cons d ds ih =>
      rw [withEntries_cons, held?_write, ih]
      by_cases h : d.path = path ∧ d.key = key
      · simp [h]
      · simp [h]

/-- Other paths are as they were, with all their keys. -/
theorem Store.get?_withEntries_of_ne {s : Store} {ds : List Entry} {path : Text}
    (h : ∀ d ∈ ds, d.path ≠ path) : Assoc.get? (s.withEntries ds) path = Assoc.get? s path := by
  induction ds with
  | nil => rfl
  | cons d ds ih =>
      obtain ⟨hd, hds⟩ := List.forall_mem_cons.1 h
      rw [withEntries_cons, write, Assoc.get?_set_of_ne _ _ hd, ih hds]

/-- The first entry for a path and a key is read. -/
theorem Store.read?_withEntries (s : Store) (ds : List Entry) (path key : Text) :
    (s.withEntries ds).read? path key =
      ((ds.find? fun d => d.path = path ∧ d.key = key).map fun d => .text d.value).or
        (s.read? path key) := by
  rw [read?_eq_bind_held?, held?_withEntries, read?_eq_bind_held?]
  cases ds.find? fun d => d.path = path ∧ d.key = key <;> rfl

/-- What is kept can be read, when no other value is declared for the same path and key. -/
theorem Store.read?_withEntries_of_mem {s : Store} {ds : List Entry}
    (hds : ∀ d ∈ ds, ∀ d' ∈ ds, d.path = d'.path → d.key = d'.key → d.value = d'.value)
    {d : Entry} (hd : d ∈ ds) :
    (s.withEntries ds).read? d.path d.key = some (.text d.value) := by
  rw [read?_withEntries]
  cases hfind : ds.find? fun d' => d'.path = d.path ∧ d'.key = d.key with
  | none =>
      have hnone := List.find?_eq_none.1 hfind d hd
      simp at hnone
  | some d' =>
      have hd' : d'.path = d.path ∧ d'.key = d.key := by simpa using List.find?_some hfind
      rw [Option.map_some, hds d' (List.mem_of_find?_eq_some hfind) d hd hd'.1 hd'.2,
        Option.some_or]

/-! ### Following references -/

variable {store : Store} {received : List KeyRequest} {d : Entry}

/-- Keeping the entry of a declaration. -/
theorem keep_payload (hd : d.IsDeclared) (store : Store) (received : List KeyRequest) :
    keep d.payload (.memory store received) =
      (.ok d.location, .memory (store.write d.path d.key (.text d.value))
        (received ++ [d.writing])) := by
  simp only [keep, parts, hd.split_payload]
  rfl

/-- Looking up what a path and a key refer to. -/
theorem lookUp_location (hd : d.IsLocated) {v : Json} (hv : store.read? d.path d.key = some v)
    (received : List KeyRequest) :
    lookUp d.location (.memory store received) =
      (.ok v.plainText, .memory store (received ++ [.read d.path d.key])) := by
  simp only [lookUp, parts, hd.split_location]
  simp [Client.read, hv]

end Vault

/-! ### One token after the other -/

open Vault Splicing

namespace Family

variable {w : World} {store : Store} {received : List KeyRequest} {ds : List Entry}

/-- **The entries of declarations are kept,** the last one first. -/
theorem transformAll_keeping (hds : ∀ d ∈ ds, d.IsDeclared) (e : Entropy) (store : Store)
    (received : List KeyRequest) :
    transformAll keeping (ds.map Entry.payload).reverse ⟨e, .memory store received⟩ =
      (.ok (ds.map Entry.location).reverse,
        ⟨e, .memory (store.withEntries ds) (received ++ (ds.map Entry.writing).reverse)⟩) := by
  induction ds with
  | nil => simp [transformAll, Store.withEntries]
  | cons d ds ih =>
      obtain ⟨hd, hds⟩ := List.forall_mem_cons.1 hds
      have hkeep : keeping d.payload
          ⟨e, .memory (store.withEntries ds) (received ++ (ds.map Entry.writing).reverse)⟩ =
          (.ok d.location, ⟨e, .memory (store.withEntries (d :: ds))
            (received ++ ((d :: ds).map Entry.writing).reverse)⟩) := by
        simp only [keeping, keep_payload hd, List.map_cons, List.reverse_cons, List.append_assoc]
        rfl
      rw [List.map_cons, List.reverse_cons, List.map_cons, List.reverse_cons]
      exact transformAll_append_eq_ok_iff.2 ⟨_, _, _, ih hds,
        transformAll_cons_eq_ok_iff.2 ⟨_, _, [], hkeep, rfl, rfl⟩, rfl⟩

/-- The entries of lookups are read, the last one first, which leaves the store as it is. -/
theorem exists_transformAll_lookingUp (hds : ∀ d ∈ ds, d.IsLocated)
    (hstore : ∀ d ∈ ds, store.read? d.path d.key = some (.text d.value))
    (hw : w.vault = .memory store received) :
    ∃ w' received', transformAll lookingUp (ds.map Entry.location).reverse w =
        (.ok (ds.map Entry.value).reverse, w') ∧
      w'.vault = .memory store received' := by
  let R : Text → Text → Prop := fun p r => ∃ d ∈ ds, p = d.location ∧ r = d.value
  let I : World → Prop := fun w => ∃ received, w.vault = .memory store received
  have hlookUp : ∀ p r w, R p r → I w → ∃ w', lookingUp p w = (.ok r, w') ∧ I w' := by
    rintro _ _ w ⟨d, hd, rfl, rfl⟩ ⟨received, hw⟩
    let client : Client := .memory store (received ++ [.read d.path d.key])
    refine ⟨{ w with vault := client }, ?_, _, rfl⟩
    simp only [lookingUp, hw, lookUp_location (hds d hd) (hstore d hd)]
    rfl
  have hall : List.Forall₂ R (ds.map Entry.location).reverse (ds.map Entry.value).reverse := by
    rw [List.forall₂_reverse_iff, List.forall₂_map_left_iff, List.forall₂_map_right_iff,
      List.forall₂_same]
    exact fun d hd => ⟨d, hd, rfl, rfl⟩
  obtain ⟨w', h, received', hw'⟩ := exists_transformAll_of_forall₂ hlookUp hall ⟨received, hw⟩
  exact ⟨w', received', h, hw'⟩

end Family

/-! ### The declarations of a text -/

namespace Shape

variable {before : Option Char} {t : Text} {k : Token}

theorem token?_lookup_eq_some_iff :
    Shape.lookup.token? before t = some k ↔ before.any Text.isWord = false ∧
      ∃ r, t = k.envelope ++ r ∧ Reference.Refers ⟨lookupMarker, 1⟩ k r :=
  Reference.token?_eq_some_iff

theorem token?_declaration_eq_some_iff :
    Shape.declaration.token? before t = some k ↔ before.any Text.isWord = false ∧
      ∃ r, t = k.envelope ++ r ∧ Reference.Refers ⟨declarationMarker, 2⟩ k r :=
  Reference.token?_eq_some_iff

theorem lawful_lookup : Shape.lookup.token?.Lawful := Reference.lawful ⟨lookupMarker, 1⟩

theorem lawful_declaration : Shape.declaration.token?.Lawful :=
  Reference.lawful ⟨declarationMarker, 2⟩

/-- The four shapes find what stands at the place. -/
theorem lawful (s : Shape) : s.token?.Lawful := by
  cases s with
  | plain => exact lawful_plain
  | encrypted => exact lawful_encrypted
  | lookup => exact lawful_lookup
  | declaration => exact lawful_declaration

/-- Each shape finds the tokens of the pieces that are read with it. -/
theorem spans_text {s : Shape} {ps : List Piece} (hps : Piece.Reads s.token? none ps) :
    s.spans (Piece.text ps) = Piece.spansFrom 0 ps := Piece.scan_text s.lawful hps

end Shape

namespace Vault

open Piece Reference

/-- **The entries that a text declares,** in the order of their declarations. -/
def declared (t : Text) : List Entry :=
  (Shape.declaration.spans t).map fun k => Entry.ofPayload (k.payload t)

variable {ps : List Piece}

/-- A token found as a declaration is the declaration of its entry. -/
theorem declaration_ofPayload (hps : Reads Shape.declaration.token? none ps) {k : Token}
    (hk : k ∈ tokens ps) :
    (Entry.ofPayload k.payload).IsDeclared ∧ (Entry.ofPayload k.payload).declaration = k := by
  obtain ⟨before, t, hfind⟩ := hps.exists_find hk
  obtain ⟨-, r, -, hrefers⟩ := Shape.token?_declaration_eq_some_iff.1 hfind
  obtain ⟨d, hd, hpayload⟩ := Entry.isPayload_iff.1 hrefers.isPayload
  rw [hpayload, hd.ofPayload_payload]
  refine ⟨hd, ?_⟩
  obtain ⟨o, p, z⟩ := k
  obtain ⟨rfl, rfl, -, -⟩ := hrefers
  rw [Entry.declaration, ← hpayload]

theorem declared_text (hps : Reads Shape.declaration.token? none ps) :
    declared (text ps) = (tokens ps).map fun k => Entry.ofPayload k.payload := by
  have hmap := congrArg (List.map Entry.ofPayload) (map_payload_scan Shape.lawful_declaration hps)
  rw [List.map_map, List.map_map] at hmap
  exact hmap

theorem isDeclared_of_mem (hps : Reads Shape.declaration.token? none ps) {d : Entry}
    (hd : d ∈ declared (text ps)) : d.IsDeclared := by
  rw [declared_text hps] at hd
  obtain ⟨k, hk, rfl⟩ := List.mem_map.1 hd
  exact (declaration_ofPayload hps hk).1

/-- **The tokens of a text are the declarations of its entries.** -/
theorem tokens_eq (hps : Reads Shape.declaration.token? none ps) :
    tokens ps = (declared (text ps)).map Entry.declaration := by
  rw [declared_text hps, List.map_map]
  calc tokens ps = (tokens ps).map id := (List.map_id _).symm
    _ = _ := List.map_congr_left fun k hk => (declaration_ofPayload hps hk).2.symm

theorem length_declared (hps : Reads Shape.declaration.token? none ps) :
    (declared (text ps)).length = (tokens ps).length := by
  rw [tokens_eq hps, List.length_map]

/-- **Lookups put in the places of declarations are found there,** when the text did not hold their
marker. -/
theorem reads_lookups {ds : List Entry} (hps : Stands ⟨declarationMarker, 2⟩ none ps)
    (hno : ¬lookupMarker <:+: text ps) (hlen : ds.length = (tokens ps).length)
    (hds : ∀ d ∈ ds, d.IsLocated ∧ Text.EndsInWord d.key) :
    Reads Shape.lookup.token? none (withTokens ps (ds.map Entry.lookup)) := by
  have hmarked : WordMarked ⟨declarationMarker, 2⟩ :=
    ⟨'v', "ault-secret:".toList, by decide, by decide, by decide⟩
  have hborderless : Text.Borderless (Reference.mk lookupMarker 1).marker := by decide
  refine Reference.reads_withTokens hmarked hborderless ?_ ?_ hps hno id
  · rw [List.length_map, hlen]
  · intro k hk
    obtain ⟨d, hd, rfl⟩ := List.mem_map.1 hk
    exact (hds d hd).1.refers_lookup (hds d hd).2

/-- The same for the entries that the text declares. -/
theorem reads_withLookups (hps : Reads Shape.declaration.token? none ps)
    (hno : ¬lookupMarker <:+: text ps)
    (hkeys : ∀ d ∈ declared (text ps), Text.EndsInWord d.key) :
    Reads Shape.lookup.token? none
      (withTokens ps ((declared (text ps)).map Entry.lookup)) :=
  reads_lookups (.of_reads hps) hno (length_declared hps)
    fun d hd => ⟨(isDeclared_of_mem hps hd).toIsLocated, hkeys d hd⟩

end Vault

/-! ### There and back -/

namespace Tool

open Piece

variable {ps : List Piece} {w : World} {store : Store} {received : List KeyRequest}

theorem ofParts_vault : ofParts none true = ⟨[.vault]⟩ := rfl

/-- The engine that keeps declarations. -/
theorem exists_engine_keeping (wrapTokens : Bool) :
    ∃ e : Engine World Cause, Family.vault.engine? .redact = some e ∧
      (∀ t, e.locate t = .ok (Shape.declaration.spans t)) ∧ e.transform = Family.keeping ∧
      e.placing? wrapTokens = some fun r _ _ => (Token.mk lookupMarker r []).envelope :=
  ⟨_, rfl, fun _ => rfl, rfl, rfl⟩

/-- The engine that looks them up. -/
theorem exists_engine_lookingUp :
    ∃ e : Engine World Cause, Family.vault.engine? .unredact = some e ∧
      (∀ t, e.locate t = .ok (Shape.lookup.spans t)) ∧ e.transform = Family.lookingUp ∧
      (e.placing? true =
        some fun r p _ => (Token.mk declarationMarker (p ++ '#' :: r) []).envelope) ∧
      e.placing? false = some Engine.bare := by
  refine ⟨_, rfl, fun _ => rfl, rfl, congrArg some ?_, rfl⟩
  funext r p _
  show declarationMarker ++ p ++ '#' :: r ++ [] = _
  simp [Token.envelope]

/-- **Redacting keeps what a text declares,** and puts lookups in the places of declarations. -/
theorem run_keeping (wrapTokens : Bool) (hps : Reads Shape.declaration.token? none ps)
    (e : Entropy) (store : Store) (received : List KeyRequest) :
    (ofParts none true).run .redact wrapTokens (text ps) ⟨e, .memory store received⟩ =
      (.ok (text (withTokens ps ((declared (text ps)).map Entry.lookup))),
        ⟨e, .memory (store.withEntries (declared (text ps)))
          (received ++ ((declared (text ps)).map Entry.writing).reverse)⟩) := by
  have hall := Family.transformAll_keeping (fun d hd => isDeclared_of_mem hps hd) e store received
  have hpayloads : (tokens ps).map Token.payload = (declared (text ps)).map Entry.payload := by
    rw [tokens_eq hps, List.map_map]
    rfl
  have hlen : ((declared (text ps)).map Entry.location).length = (tokens ps).length := by
    rw [List.length_map, length_declared hps]
  obtain ⟨engine, hengine, hlocate, htransform, hplace⟩ := exists_engine_keeping wrapTokens
  have hspans : engine.locate (text ps) = .ok (spansFrom 0 ps) := by
    rw [hlocate, Shape.spans_text hps]
  rw [← htransform, ← hpayloads] at hall
  rw [ofParts_vault, run_singleton hengine, run_text hplace hspans hall hlen, text_withTokens,
    List.map_map, List.map_map]
  rfl

/-- The same for a store behind a world. -/
theorem exists_run_keeping (wrapTokens : Bool) (hps : Reads Shape.declaration.token? none ps)
    (hw : w.vault = .memory store received) :
    ∃ w' received', (ofParts none true).run .redact wrapTokens (text ps) w =
        (.ok (text (withTokens ps ((declared (text ps)).map Entry.lookup))), w') ∧
      w'.vault = .memory (store.withEntries (declared (text ps))) received' := by
  obtain ⟨e, client⟩ := w
  obtain rfl : client = .memory store received := hw
  exact ⟨_, _, run_keeping wrapTokens hps e store received, rfl⟩

/-- **Unredacting looks up what is kept,** when the tokens of a text are lookups of entries of the
store, and leaves the store as it is. -/
theorem exists_run_lookingUp {e : Engine World Cause} {wrapTokens : Bool} {place : Placing}
    (hlocate : ∀ t, e.locate t = .ok (Shape.lookup.spans t))
    (htransform : e.transform = Family.lookingUp) (hplace : e.placing? wrapTokens = some place)
    {ds : List Entry} (hps : Reads Shape.lookup.token? none ps)
    (htokens : tokens ps = ds.map Entry.lookup) (hds : ∀ d ∈ ds, d.IsLocated)
    (hstore : ∀ d ∈ ds, store.read? d.path d.key = some (.text d.value))
    (hw : w.vault = .memory store received) :
    ∃ w' received', e.run wrapTokens (text ps) w =
        (.ok (fill ps (ds.map fun d => place d.value d.location d.lookup.envelope)), w') ∧
      w'.vault = .memory store received' := by
  obtain ⟨w', received', hall, hw'⟩ := Family.exists_transformAll_lookingUp hds hstore hw
  have hpayloads : (tokens ps).map Token.payload = ds.map Entry.location := by
    rw [htokens, List.map_map]
    rfl
  have hlen : (ds.map Entry.value).length = (tokens ps).length := by
    rw [htokens, List.length_map, List.length_map]
  have hspans : e.locate (text ps) = .ok (spansFrom 0 ps) := by
    rw [hlocate, Shape.spans_text hps]
  rw [← htransform, ← hpayloads] at hall
  refine ⟨w', received', ?_, hw'⟩
  rw [run_text_of_placing? hplace hspans hall hlen, htokens, List.zipWith_map, List.zipWith_self]
  rfl

/-- Every declaration replaced by what `g` makes of its entry. -/
theorem substitute_declared (hps : Reads Shape.declaration.token? none ps) (g : Entry → Text) :
    substitute (text ps) ((Shape.declaration.spans (text ps)).map fun k =>
        (k, g (Entry.ofPayload (k.payload (text ps))))) =
      fill ps ((declared (text ps)).map g) := by
  rw [Shape.spans_text hps, substitute_map_payload (fun p => g (Entry.ofPayload p)) ps,
    declared_text hps, List.map_map]
  rfl

/-- The declarations of the entries of a text make it up. -/
theorem fill_declarations (hps : Reads Shape.declaration.token? none ps) :
    fill ps ((declared (text ps)).map fun d => d.declaration.envelope) = text ps := by
  calc fill ps ((declared (text ps)).map fun d => d.declaration.envelope)
      = fill ps ((tokens ps).map Token.envelope) := by rw [tokens_eq hps, List.map_map]; rfl
    _ = text ps := fill_envelopes ps

/-- **A redacted text is unredacted again.**  In a text that does not hold the marker of lookups, in
which the keys of declarations end with word characters and no two declarations give different
values for the same path and key, redacting with a vault in memory replaces the declarations by
lookups.  With the store that this leaves, the way back yields the text, when it is to wrap tokens,
and else the text with each declaration replaced by its value. -/
theorem run_run_kept (wrapTokens : Bool) {t : Text} (ht : ¬lookupMarker <:+: t)
    (hkeys : ∀ d ∈ declared t, Text.EndsInWord d.key)
    (hvalues : ∀ d ∈ declared t, ∀ d' ∈ declared t, d.path = d'.path → d.key = d'.key →
      d.value = d'.value)
    (hw : w.vault = .memory store received) :
    ∃ t' w' store' received',
      (ofParts none true).run .redact wrapTokens t w = (.ok t', w') ∧
      w'.vault = .memory store' received' ∧
      t' = substitute t ((Shape.declaration.spans t).map fun k =>
        (k, (Entry.ofPayload (k.payload t)).lookup.envelope)) ∧
      ∀ w₂ received₂, w₂.vault = .memory store' received₂ →
        (∃ w₃, (ofParts none true).run .unredact true t' w₂ = (.ok t, w₃)) ∧
        ∃ w₃, (ofParts none true).run .unredact false t' w₂ =
          (.ok (substitute t ((Shape.declaration.spans t).map fun k =>
            (k, (Entry.ofPayload (k.payload t)).value))), w₃) := by
  obtain ⟨ps, rfl, hps⟩ := exists_reads Shape.lawful_declaration none t
  obtain ⟨w', received', hrun, hw'⟩ := exists_run_keeping wrapTokens hps hw
  have hreads := reads_withLookups hps ht hkeys
  have hlen : ((declared (text ps)).map Entry.lookup).length = (tokens ps).length := by
    rw [List.length_map, length_declared hps]
  have hfill : ∀ g : Entry → Text, fill (withTokens ps ((declared (text ps)).map Entry.lookup))
      ((declared (text ps)).map g) = fill ps ((declared (text ps)).map g) :=
    fun g => fill_withTokens (by rw [List.length_map, length_declared hps]) hlen
  have hstore : ∀ d ∈ declared (text ps),
      (store.withEntries (declared (text ps))).read? d.path d.key = some (.text d.value) :=
    fun d hd => Store.read?_withEntries_of_mem hvalues hd
  have hlocated : ∀ d ∈ declared (text ps), d.IsLocated :=
    fun d hd => (isDeclared_of_mem hps hd).toIsLocated
  obtain ⟨e, he, hlocate, htransform, hwrapped, hbare⟩ := exists_engine_lookingUp
  refine ⟨_, w', _, received', hrun, hw', ?_, fun w₂ received₂ hw₂ => ⟨?_, ?_⟩⟩
  · rw [substitute_declared hps fun d => d.lookup.envelope, text_withTokens, List.map_map]
    rfl
  · obtain ⟨w₃, -, hback, -⟩ := exists_run_lookingUp hlocate htransform hwrapped hreads
      (tokens_withTokens hlen) hlocated hstore hw₂
    refine ⟨w₃, ?_⟩
    rw [ofParts_vault, run_singleton he, hback, hfill]
    simp only [Entry.location_append]
    exact congrArg (fun t => (Except.ok t, w₃)) (fill_declarations hps)
  · obtain ⟨w₃, -, hback, -⟩ := exists_run_lookingUp hlocate htransform hbare hreads
      (tokens_withTokens hlen) hlocated hstore hw₂
    refine ⟨w₃, ?_⟩
    rw [ofParts_vault, run_singleton he, hback, hfill, substitute_declared hps Entry.value]
    rfl

/-- A text with a key that holds a dot and a value that goes on behind a comma, a declaration that
begins inside the path of another one, the first declaration once more, and one without a value. -/
def declaring : Text :=
  "a=\"vault-secret:p/q#k.x#v,w\"! vault-secret:vault-secret:é#k#v".toList ++
    " (vault-secret:p/q#k.x#v,w) vault-secret:p#k#.".toList

/-- A vault in which the same key has another value. -/
def overwritten : World :=
  ⟨⟨fun _ n => Vector.replicate n 0, 0⟩,
    .memory [("p/q".toList, [("k.x".toList, .text "old".toList)])] []⟩

theorem run_run_kept_declaring :
    ¬lookupMarker <:+: declaring ∧ (declared declaring).length = 3 ∧
    ∃ t' w' store' received',
      (ofParts none true).run .redact false declaring overwritten = (.ok t', w') ∧
      w'.vault = .memory store' received' ∧
      t' = substitute declaring ((Shape.declaration.spans declaring).map fun k =>
        (k, (Entry.ofPayload (k.payload declaring)).lookup.envelope)) ∧
      ∀ w₂ received₂, w₂.vault = .memory store' received₂ →
        (∃ w₃, (ofParts none true).run .unredact true t' w₂ = (.ok declaring, w₃)) ∧
        ∃ w₃, (ofParts none true).run .unredact false t' w₂ =
          (.ok (substitute declaring ((Shape.declaration.spans declaring).map fun k =>
            (k, (Entry.ofPayload (k.payload declaring)).value))), w₃) := by
  have ht : ¬lookupMarker <:+: declaring := by decide +kernel
  have hkeys : ∀ d ∈ declared declaring, Text.EndsInWord d.key := by decide +kernel
  have hvalues : ∀ d ∈ declared declaring, ∀ d' ∈ declared declaring, d.path = d'.path →
      d.key = d'.key → d.value = d'.value := by decide +kernel
  exact ⟨ht, by decide +kernel, run_run_kept false ht hkeys hvalues rfl⟩

end Tool

end InlineSecrets
