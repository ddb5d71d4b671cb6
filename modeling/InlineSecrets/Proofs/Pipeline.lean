/-
**Both families, there and back in the same order.**

A tool with a key and a vault redacts with the inline family first, and then with the vault family
what that has made; it unredacts in the same order, not in the opposite one.  Still the way back
leads to the text as it was, when the two families do not get in each other's way: in the text with
sealed secrets, no declaration has a sealed secret in it, the vault family can look up again what it
keeps, and where a declaration gives way to a lookup no marker of sealed secrets arises.

Otherwise it does not.  A secret inside a declaration is kept in the vault as it was sealed, where
the inline family does not find it any more; and behind a key that ends like a marker, the text may
look like a sealed secret that cannot be opened.

Main definitions:

* `InlineSecrets.Tool.Separate` — texts in which sealed secrets and declarations do not get in each
  other's way.

Main results:

* `InlineSecrets.Tool.run_both` — the two families run one after the other;
* `InlineSecrets.Tool.run_opening_slots`, `InlineSecrets.Tool.exists_run_lookingUp_slots` — the way
  back of each of them, next to the tokens of the other;
* `InlineSecrets.Tool.exists_run_run_both` — **what both families have redacted is unredacted
  again;**
* `InlineSecrets.Tool.exists_run_run_nested` — a secret inside a declaration comes back sealed.
-/

import InlineSecrets.Proofs.Relocating
import InlineSecrets.Proofs.Slots

set_option relaxedAutoImplicit false
set_option autoImplicit false

namespace InlineSecrets

open Piece Vault

namespace Piece

/-- What holds at the spans of pieces, of the payload and of what follows the token, holds of each
token among them. -/
theorem of_forall_spansFrom {ps qs : List Piece} {k : Token} {P : Text → Text → Prop}
    (h : ∀ s ∈ spansFrom 0 (ps ++ .token k :: qs),
      P (s.payload (text (ps ++ .token k :: qs)))
        ((text (ps ++ .token k :: qs)).drop s.envelopeEnd.toNat)) :
    P k.payload (text qs) := by
  have hmem : k.span (text ps).length ∈ spansFrom 0 (ps ++ .token k :: qs) := by
    rw [spansFrom_append, Nat.zero_add]
    exact List.mem_append_right _ List.mem_cons_self
  have htext : text (ps ++ .token k :: qs) = text ps ++ (k.envelope ++ text qs) := text_append _ _
  have hend : (k.span (text ps).length).envelopeEnd.toNat = (text ps ++ k.envelope).length := by
    simp only [Token.span, List.length_append, Token.length_envelope]
    omega
  have hk := h _ hmem
  rw [htext, (span_slices k (text ps) (text qs)).1, hend, ← List.append_assoc,
    List.drop_left] at hk
  exact hk

end Piece

namespace Reference

/-- A reference where it stands. -/
theorem Stands.refers {e : Reference} {before : Option Char} {ps qs : List Piece} {k : Token}
    (h : Stands e before (ps ++ .token k :: qs)) : e.Refers k (text qs) := by
  induction ps generalizing before with
  | nil =>
      cases h with
      | token _ hk _ => exact hk
  | cons p ps ih =>
      cases h with
      | plain h => exact ih h
      | token _ _ h => exact ih h

end Reference

namespace Tool

/-! ### One family after the other -/

theorem runEngines_append (wrapTokens : Bool) (es es' : List (Engine World Cause)) (t : Text)
    (w : World) :
    runEngines wrapTokens (es ++ es') t w =
      match runEngines wrapTokens es t w with
      | (.ok t, w) => runEngines wrapTokens es' t w
      | failed => failed := by
  induction es generalizing t w with
  | nil => rfl
  | cons e es ih =>
      rw [List.cons_append, runEngines, runEngines]
      rcases e.run wrapTokens t w with ⟨_ | u, w'⟩
      · rfl
      · exact ih u w'

/-- What each engine keeps is kept by all of them, one after the other. -/
theorem keeps_runEngines {I : World → Prop} {wrapTokens : Bool} {es : List (Engine World Cause)}
    (hes : ∀ e ∈ es, ∀ t {w}, I w → I (e.run wrapTokens t w).2) (t : Text) {w : World} (hw : I w) :
    I (runEngines wrapTokens es t w).2 := by
  induction es generalizing t w with
  | nil => exact hw
  | cons e es ih =>
      obtain ⟨he, hes⟩ := List.forall_mem_cons.1 hes
      have hkept := he t hw
      rw [runEngines]
      rcases hrun : e.run wrapTokens t w with ⟨_ | u, w'⟩
      · rw [hrun] at hkept
        exact hkept
      · rw [hrun] at hkept
        exact ih hes u hkept

/-- A tool with a key and a vault runs what a tool with the key runs, and then what a tool with a
vault runs. -/
theorem run_both (key : Key) (a : Action) (wrapTokens : Bool) (t : Text) (w : World) :
    (ofParts (some key) true).run a wrapTokens t w =
      match (ofParts (some key) false).run a wrapTokens t w with
      | (.ok t, w) => (ofParts none true).run a wrapTokens t w
      | failed => failed := by
  have hengines : (ofParts (some key) true).engines a =
      (ofParts (some key) false).engines a ++ (ofParts none true).engines a :=
    List.filterMap_append
  rw [run, hengines, runEngines_append]
  rfl

/-- Sealing does nothing to the vault. -/
theorem vault_run_sealing (key : Key) {a : Action} (ha : a = .encode ∨ a = .redact)
    (wrapTokens : Bool) (t : Text) (w : World) :
    ((ofParts (some key) false).run a wrapTokens t w).2.vault = w.vault := by
  obtain ⟨e, he, -, htransform, hplace⟩ := exists_engine_sealing key ha wrapTokens
  rw [run_ofParts he]
  refine Engine.keeps_run_of_placing? (I := fun w' => w'.vault = w.vault) hplace ?_ t rfl
  intro p w' hw'
  rw [htransform]
  exact hw'

/-! ### Texts for both families -/

/-- A text with sealed secrets that the vault family may redact: it can look up again what it keeps,
declarations and sealed secrets have no character in common, and no declaration whose key ends like
the marker of sealed secrets is followed by the colon of that marker. -/
structure Separate (t : Text) : Prop where
  keys : ∀ d ∈ declared t, Text.EndsInWord d.key
  values : ∀ d ∈ declared t, ∀ d' ∈ declared t, d.path = d'.path → d.key = d'.key →
    d.value = d'.value
  disjoint : ∀ s ∈ Shape.encrypted.spans t, ∀ s' ∈ Shape.declaration.spans t, s.Disjoint s'
  ends : ∀ s ∈ Shape.declaration.spans t,
    ¬(sealedName <:+ (Entry.ofPayload (s.payload t)).key ∧ [':'] <+: t.drop s.envelopeEnd.toNat)

variable {key : Key} {w : World} {store : Store} {received : List KeyRequest}

/-- A text with sealed secrets that are separate from its declarations comes from slots, where each
declaration stands in front of a settled text and no marker arises behind its key. -/
theorem exists_slots_of_separate {ps qs : List Piece} {rs : List Text}
    (hps : Reads Shape.encrypted.token? none ps) (htokens : tokens ps = rs.map Token.encrypted)
    (hqs : Reads Shape.declaration.token? none qs) (htext : text qs = text ps)
    (hseparate : Separate (text ps)) :
    ∃ ss, Slot.payloads ss = rs ∧ Slot.entries ss = declared (text qs) ∧
      Slot.sealedPieces Slot.asDeclaration ss = ps ∧
      Slot.declaredPieces Slot.asSealed Entry.declaration ss = qs ∧
      ∀ d ss', Slot.declared d :: ss' <:+ ss → Reference.Settled (Slot.text ss') ∧
        ¬(sealedName <:+ d.key ∧ [':'] <+: Slot.text ss') := by
  have hdisjoint := hseparate.disjoint
  have hends := hseparate.ends
  rw [Shape.spans_text hps, ← htext, Shape.spans_text hqs] at hdisjoint
  rw [← htext, Shape.spans_text hqs] at hends
  obtain ⟨ss, hrs, hds, hss, hss'⟩ := Slot.exists_slots htokens (tokens_eq hqs) htext.symm hdisjoint
  refine ⟨ss, hrs, hds, hss, hss', ?_⟩
  rintro d ss₂ ⟨ss₁, rfl⟩
  -- the declaration is one of those found
  have hd : Entry.ofPayload d.declaration.payload = d :=
    (isDeclared_of_mem hqs (hds ▸ Slot.mem_entries_append ss₁ ss₂)).ofPayload_payload
  have hrest : text (Slot.declaredPieces Slot.asSealed Entry.declaration ss₂) = Slot.text ss₂ :=
    Slot.text_declaredPieces _ _ _
  rw [← hss', Slot.declaredPieces_append, Slot.declaredPieces] at hqs hends
  have hend := of_forall_spansFrom (P := fun p rest =>
    ¬(sealedName <:+ (Entry.ofPayload p).key ∧ [':'] <+: rest)) hends
  rw [hd, hrest] at hend
  exact ⟨hrest ▸ (Reference.Stands.of_reads hqs).refers.settled, hend⟩

/-! ### There and back -/

/-- What a secret is opened to, with the markers of plain secrets; nothing, when it cannot be. -/
def opened (key : Key) (r : Text) : Text :=
  secretOpener ++ (Cipher.openText (some key) r).toOption.getD [] ++ secretCloser

/-- The payloads that secrets are opened to, with their markers. -/
theorem map_opened {rs ps : List Text}
    (hopen : List.Forall₂ (fun r p => Cipher.openText (some key) r = .ok p) rs ps) :
    rs.map (opened key) = ps.map fun p => secretOpener ++ p ++ secretCloser := by
  induction hopen with
  | nil => rfl
  | cons hr _ ih =>
      rw [List.map_cons, List.map_cons, ih, opened, hr]
      rfl

/-- **The inline family opens what is sealed between lookups,** when no marker of sealed secrets was
in the text, or arises where a declaration gives way to a lookup. -/
theorem run_opening_slots {ss : List Slot} {ps : List Text}
    (hsealed : ∀ r ∈ Slot.payloads ss, Cipher.IsSealed r)
    (hopen : List.Forall₂ (fun r p => Cipher.openText (some key) r = .ok p) (Slot.payloads ss) ps)
    (hends : ∀ d ss', Slot.declared d :: ss' <:+ ss → Reference.Settled (Slot.text ss') ∧
      ¬(sealedName <:+ d.key ∧ [':'] <+: Slot.text ss'))
    (hno : ¬sealedOpener <:+: Slot.write (opened key) Slot.asDeclaration ss) (w : World) :
    (ofParts (some key) false).run .unredact true (Slot.redacted ss) w =
      (.ok (Slot.write (opened key) Slot.asLookup ss), w) := by
  obtain ⟨e, he, hlocate, htransform, hwrapped, -⟩ := exists_engine_opening key (Or.inr rfl)
  have hpayloads :
      (tokens (Slot.sealedPieces Slot.asLookup ss)).map Token.payload = Slot.payloads ss := by
    rw [Slot.tokens_sealedPieces, List.map_map]
    exact List.map_id _
  have hopening := run_opening hlocate htransform hwrapped
    (Slot.reads_encrypted hsealed hends hno none) (hpayloads ▸ hopen) w
  rw [← map_opened hopen, Slot.fill_sealedPieces, Slot.text_sealedPieces] at hopening
  exact (run_ofParts he true _ w).trans hopening

/-- **The vault family looks up what it has kept,** whatever stands in the places of sealed secrets,
when no marker of lookups was in the text. -/
theorem exists_run_lookingUp_slots {ss : List Slot} {f : Text → Text}
    (hstands : Reference.Stands ⟨declarationMarker, 2⟩ none
      (Slot.declaredPieces Slot.asSealed Entry.declaration ss))
    (hkeys : ∀ d ∈ Slot.entries ss, d.IsLocated ∧ Text.EndsInWord d.key)
    (hno : ¬lookupMarker <:+: Slot.write f Slot.asDeclaration ss)
    (hstore : ∀ d ∈ Slot.entries ss, store.read? d.path d.key = some (.text d.value))
    (hw : w.vault = .memory store received) :
    ∃ w', (ofParts none true).run .unredact true (Slot.write f Slot.asLookup ss) w =
      (.ok (Slot.write f Slot.asDeclaration ss), w') := by
  obtain ⟨e, he, hlocate, htransform, hwrapped, -⟩ := exists_engine_lookingUp
  obtain ⟨w', -, hlookingUp, -⟩ := exists_run_lookingUp hlocate htransform hwrapped
    (Slot.reads_lookup hstands hkeys f hno) (Slot.tokens_declaredPieces _ _ _)
    (fun d hd => (hkeys d hd).1) hstore hw
  rw [Slot.text_declaredPieces, Slot.fill_declaredPieces] at hlookingUp
  simp only [Entry.location_append] at hlookingUp
  exact ⟨w', (run_singleton he true _ w).trans hlookingUp⟩

/-- **What both families have redacted is unredacted again.**  A text holds neither the opening
marker of sealed secrets nor the marker of lookups.  The inline family makes a text of it in which
its secrets are sealed; when they are separate from the declarations of that text, a tool with both
families redacts the text, and with the store that this leaves, unredacting with wrapped tokens
yields the text, with any random bytes. -/
theorem exists_run_run_both (key : Key) (wrapTokens : Bool) {t : Text} (ht : ¬sealedOpener <:+: t)
    (ht' : ¬lookupMarker <:+: t) (hw : w.vault = .memory store received) :
    ∃ t₁ w₁, (ofParts (some key) false).run .redact wrapTokens t w = (.ok t₁, w₁) ∧
      (Separate t₁ →
        ∃ t₂ w₂ store' received',
          (ofParts (some key) true).run .redact wrapTokens t w = (.ok t₂, w₂) ∧
          w₂.vault = .memory store' received' ∧
          ∀ w₃ received₃, w₃.vault = .memory store' received₃ →
            ∃ w₄, (ofParts (some key) true).run .unredact true t₂ w₃ = (.ok t, w₄)) := by
  obtain ⟨ps, rfl, hps⟩ := exists_reads Shape.lawful_plain none t
  obtain ⟨rs, w₁, hsealing, hsealed, hopen⟩ := exists_run_sealing (Or.inr rfl) wrapTokens hps w
  have hw₁ : w₁.vault = .memory store received := by
    rw [← hw, ← vault_run_sealing key (Or.inr rfl) wrapTokens (text ps) w, hsealing]
  refine ⟨_, w₁, hsealing, fun hseparate => ?_⟩
  have hlen : rs.length = (tokens ps).length := by rw [hopen.length_eq, List.length_map]
  obtain ⟨qs, htext, hqs⟩ := exists_reads Shape.lawful_declaration none (text (withSealed ps rs))
  obtain ⟨ss, hrs, hds, hss, hss', hends⟩ := exists_slots_of_separate
    (reads_withSealed hlen hsealed ht) (tokens_withSealed hlen) hqs htext hseparate
  have hplain : Slot.write (opened key) Slot.asDeclaration ss = text ps := by
    rw [← Slot.fill_sealedPieces Slot.asDeclaration, hrs, map_opened hopen, hss, withSealed,
      fill_withTokens, fill_payloads hps]
    · rw [List.length_map, List.length_map]
    · rw [List.length_map, hlen]
  have hdeclared : ∀ d ∈ Slot.entries ss, d.IsDeclared ∧ d ∈ declared (text qs) := fun d hd =>
    ⟨isDeclared_of_mem hqs (hds ▸ hd), hds ▸ hd⟩
  rw [← htext] at hseparate
  -- there: the vault family keeps what is declared next to the sealed secrets
  obtain ⟨w₂, received₂, hkeeping, hw₂⟩ := exists_run_keeping wrapTokens hqs hw₁
  have hredacted : text (withTokens qs ((declared (text qs)).map Entry.lookup)) =
      Slot.redacted ss := by
    rw [← hds, ← hss', Slot.withTokens_declaredPieces, Slot.text_declaredPieces]
    rfl
  rw [hredacted, htext] at hkeeping
  refine ⟨Slot.redacted ss, w₂, _, received₂, ?_, hw₂, fun w₃ received₃ hw₃ => ?_⟩
  · rw [run_both, hsealing]
    exact hkeeping
  -- back: the inline family opens the secrets, and the vault family looks up what was kept
  have hopening :=
    run_opening_slots (hrs ▸ hsealed) (hrs ▸ hopen) hends (hplain ▸ ht) w₃
  obtain ⟨w₄, hlookingUp⟩ := exists_run_lookingUp_slots (hss' ▸ .of_reads hqs)
    (fun d hd => ⟨(hdeclared d hd).1.toIsLocated, hseparate.keys d (hdeclared d hd).2⟩)
    (hplain ▸ ht')
    (fun d hd => Store.read?_withEntries_of_mem hseparate.values (hdeclared d hd).2) hw₃
  refine ⟨w₄, ?_⟩
  rw [run_both, hopening, ← hplain]
  exact hlookingUp

/-- A text with one secret is made into one with that secret sealed; the vault is left alone. -/
theorem exists_run_sealing_singleton {ps : List Piece} {k : Token} (htokens : tokens ps = [k])
    (hps : Reads Shape.plain.token? none ps) (key : Key) (wrapTokens : Bool) (w : World) :
    ∃ r w', (ofParts (some key) false).run .redact wrapTokens (text ps) w =
        (.ok (text (withSealed ps [r])), w') ∧ Cipher.IsSealed r ∧ w'.vault = w.vault := by
  have ha : Action.redact = .encode ∨ Action.redact = .redact := Or.inr rfl
  obtain ⟨rs, w', hrun, hsealed, hopen⟩ := @exists_run_sealing key ps _ ha wrapTokens hps w
  obtain ⟨r, rfl⟩ : ∃ r, rs = [r] := List.length_eq_one_iff.1 (by
    rw [hopen.length_eq, htokens]
    rfl)
  have hvault := vault_run_sealing key ha wrapTokens (text ps) w
  rw [hrun] at hvault
  exact ⟨r, w', hrun, hsealed r (List.mem_singleton_self r), hvault⟩

/-- **No declaration begins in a sealed secret,** which has colons where its parts meet only. -/
theorem not_prefix_asSealed {r : Text} (hr : Cipher.IsSealed r) (rest : Text) {n : Nat}
    (hn : n < (Slot.asSealed r).length) :
    ¬declarationMarker <+: (Slot.asSealed r).drop n ++ rest := by
  have hmarker : declarationMarker = "vault-secret".toList ++ [':'] := by decide
  have hname : ':' ∉ sealedName ∧ 'v' ∉ sealedName := by decide
  have hsign : ':' ∉ r ∧ '-' ∉ r :=
    ⟨fun h => absurd (hr.2 _ h) (by decide), fun h => absurd (hr.2 _ h) (by decide)⟩
  intro h
  rcases Token.drop_envelope_encrypted r hn with ⟨u, x, hu, hdrop⟩ | ⟨c, u, hu, hdrop⟩
  · -- it would be all that is in front of a colon
    rw [Slot.asSealed, hdrop, hmarker, List.append_assoc, List.cons_append] at h
    rcases hu with hu | hu
    · have hcolon : ':' ∉ u := fun hmem => hname.1 (hu.subset hmem)
      obtain rfl := Text.eq_of_append_separator_prefix (by decide) hcolon h
      exact hname.2 (hu.subset (by decide))
    · have hcolon : ':' ∉ u := fun hmem => hsign.1 (hu.subset hmem)
      obtain rfl := Text.eq_of_append_separator_prefix (by decide) hcolon h
      exact hsign.2 (hu.subset (by decide))
  · -- it would begin with a character of the name behind
    rw [Slot.asSealed, hdrop] at h
    have hv : 'v' = c := (List.cons_prefix_cons.1 h).1
    exact hname.2 (hu.subset (hv ▸ List.mem_cons_self))

/-- A secret, and a declaration behind it. -/
def mixed : Text := "secret:x:secret vault-secret:p#k#v".toList

/-- The entry that is declared there. -/
def mixedEntry : Entry := ⟨"p".toList, "k".toList, "v".toList⟩

theorem length_zeros : (List.replicate 32 (0 : UInt8)).length = 32 := rfl

/-- The tool with a key of zeros and a vault. -/
def ofZerosAndVault : Tool := ofParts (some ⟨List.replicate 32 0, length_zeros⟩) true

/-- The pieces in which the secret is a token. -/
def mixedPieces : List Piece :=
  .token ⟨secretOpener, "x".toList, secretCloser⟩ :: " vault-secret:p#k#v".toList.map .plain

theorem separate_mixed {r : Text} (hr : Cipher.IsSealed r) :
    Separate (text (withSealed mixedPieces [r])) := by
  have hps : Reads Shape.encrypted.token? none (withSealed mixedPieces [r]) :=
    reads_withSealed rfl (by simpa using hr) (by decide +kernel)
  let qs : List Piece := (Slot.asSealed r).map .plain ++ [.plain ' ', .token mixedEntry.declaration]
  have hqs : Reads Shape.declaration.token? none qs := by
    refine reads_map_plain_append (fun before n hn => Reference.token?_of_not_marked
      (not_prefix_asSealed hr _ hn) before) ?_
    have hblank : ¬(Reference.mk declarationMarker 2).marker <+:
        ' ' :: text [.token mixedEntry.declaration] := by decide
    exact .plain (Reference.token?_of_not_marked hblank _) (by decide)
  have htext : text (withSealed mixedPieces [r]) = text qs := by
    rw [text_append, text_map_plain]
    rfl
  have hdeclared : declared (text (withSealed mixedPieces [r])) = [mixedEntry] := by
    rw [htext, declared_text hqs, tokens_map_plain_append]
    rfl
  have hends : ∀ s ∈ Shape.declaration.spans (text (withSealed mixedPieces [r])),
      Entry.ofPayload (s.payload (text (withSealed mixedPieces [r]))) = mixedEntry := fun s hs =>
    List.mem_singleton.1 (hdeclared ▸ List.mem_map_of_mem hs)
  refine ⟨?_, ?_, ?_, fun s hs h => ?_⟩
  · rw [hdeclared]
    decide
  · rw [hdeclared]
    simp
  · -- the sealed secret ends in front of the blank
    rw [Shape.spans_text hps, htext, Shape.spans_text hqs, spansFrom_map_plain_append]
    intro s hs s' hs'
    obtain rfl : s = (Token.encrypted r).span 0 := List.mem_singleton.1 hs
    obtain rfl : s' = mixedEntry.declaration.span (0 + (Slot.asSealed r).length + 1) :=
      List.mem_singleton.1 hs'
    simp only [Span.Disjoint, Span.Precedes, Token.span, Slot.asSealed, Token.length_envelope]
    omega
  · rw [hends s hs] at h
    exact absurd h.1 (by decide)

theorem exists_run_run_both_mixed :
    ¬sealedOpener <:+: mixed ∧ ¬lookupMarker <:+: mixed ∧
    ∃ t₁ w₁, ofZeros.run .redact false mixed zeros = (.ok t₁, w₁) ∧ Separate t₁ ∧
      ∃ t₂ w₂ store' received',
        ofZerosAndVault.run .redact false mixed zeros = (.ok t₂, w₂) ∧
        w₂.vault = .memory store' received' ∧
        ∀ w₃ received₃, w₃.vault = .memory store' received₃ →
          ∃ w₄, ofZerosAndVault.run .unredact true t₂ w₃ = (.ok mixed, w₄) := by
  have ht : ¬sealedOpener <:+: mixed := by decide +kernel
  have ht' : ¬lookupMarker <:+: mixed := by decide +kernel
  obtain ⟨t₁, w₁, hrun, hback⟩ := exists_run_run_both ⟨List.replicate 32 0, rfl⟩ false ht ht'
    (rfl : zeros.vault = .memory [] [])
  have hps : Reads Shape.plain.token? none mixedPieces := by decide +kernel
  obtain ⟨r, w', hsealing, hr, -⟩ :=
    exists_run_sealing_singleton rfl hps ⟨List.replicate 32 0, rfl⟩ false zeros
  obtain rfl : t₁ = text (withSealed mixedPieces [r]) := by
    rw [show mixed = text mixedPieces from rfl, hsealing] at hrun
    exact (Except.ok.inj (Prod.mk.inj hrun).1).symm
  exact ⟨ht, ht', _, w₁, hrun, separate_mixed hr, hback (separate_mixed hr)⟩

/-! ### Texts that do not come back -/

/-- A secret inside the value of a declaration. -/
def nested : Text := "vault-secret:p#k#secret:x:secret".toList

/-- A key that ends like the marker of sealed secrets, and a text behind the declaration that goes
on with the rest of a sealed secret. -/
def trailing : Text := "vault-secret:p#secret-aes-256-gcm#v: x:secret-aes-256-gcm".toList

/-- Sealed secrets may stand in references. -/
theorem isPart_of_mem_asSealed {r : Text} (hr : Cipher.IsSealed r) :
    ∀ c ∈ Slot.asSealed r, Reference.isPart c = true := by
  have hascii : ∀ n < 0x80, Base64.isSign (Char.ofNat n) = true →
      Reference.isPart (Char.ofNat n) = true := by decide +kernel
  have hopener : sealedOpener.all Reference.isPart = true := by decide
  have hcloser : sealedCloser.all Reference.isPart = true := by decide
  intro c hc
  rcases List.mem_append.1 hc with hc | hc
  · rcases List.mem_append.1 hc with hc | hc
    · exact List.all_eq_true.1 hopener c hc
    · have hsign := hr.2 c hc
      have hpart := hascii c.toNat (Base64.toNat_lt_of_isSign hsign)
      rw [Char.ofNat_toNat] at hpart
      exact hpart hsign
  · exact List.all_eq_true.1 hcloser c hc

/-- **A secret inside a declaration comes back sealed,** with any key, any random bytes and any
vault in memory. -/
theorem exists_run_run_nested (key : Key) (hw : w.vault = .memory store received) :
    ∃ r t₂ w₂ t₃ w₃, Cipher.IsSealed r ∧
      (ofParts (some key) true).run .redact false nested w = (.ok t₂, w₂) ∧
      (ofParts (some key) true).run .unredact true t₂ w₂ = (.ok t₃, w₃) ∧
      t₃ = "vault-secret:p#k#".toList ++ Slot.asSealed r := by
  let ps : List Piece := "vault-secret:p#k#".toList.map .plain ++
    [.token ⟨secretOpener, "x".toList, secretCloser⟩]
  have hps : Reads Shape.plain.token? none ps := by decide +kernel
  obtain ⟨r, w₁, hsealing, hr, hw₁⟩ := exists_run_sealing_singleton rfl hps key false w
  -- the value is the secret as it was sealed
  let d : Entry := ⟨"p".toList, "k".toList, Slot.asSealed r⟩
  have htext : text (withSealed ps [r]) = d.declaration.envelope := by
    rw [text_withSealed, fill_map_plain_append]
    rfl
  have hp : Reference.IsRun "p".toList := by decide
  have hk : Reference.IsRun "k".toList ∧ Text.EndsInWord "k".toList := by decide
  have hd : d.IsDeclared :=
    ⟨⟨hp, hk.1⟩, ⟨Slot.envelope_encrypted_ne_nil r, isPart_of_mem_asSealed hr⟩,
      Slot.endsInWord_asSealed r⟩
  obtain ⟨w₂, received₂, hkeeping, hw₂⟩ := exists_run_kept false hd (hw₁.trans hw)
  have hstore : (store.write d.path d.key (.text d.value)).read? d.path d.key =
      some (.text d.value) := by
    rw [Store.read?_write, if_pos ⟨rfl, rfl⟩]
    rfl
  obtain ⟨w₃, received₃, hlookingUp, -⟩ := exists_run_lookup hd.toIsLocated hk.2 hstore hw₂
  have hback : d.declaration.envelope = "vault-secret:p#k#".toList ++ Slot.asSealed r := by
    rw [Entry.envelope_declaration]
    rfl
  refine ⟨r, d.lookup.envelope, w₂, d.declaration.envelope, w₃, hr, ?_, ?_, hback⟩
  · rw [run_both, show nested = text ps from rfl, hsealing, htext]
    exact hkeeping
  · -- there is no sealed secret in the lookup
    have hinline : (ofParts (some key) false).run .unredact true d.lookup.envelope w₂ =
        (.ok d.lookup.envelope, w₂) := rfl
    rw [run_both, hinline]
    exact hlookingUp

/-- In both texts the keys end with word characters, and nothing is declared twice. -/
theorem run_run_both_nested_trailing :
    (¬sealedOpener <:+: nested ∧ ¬lookupMarker <:+: nested ∧
      (∀ d ∈ declared nested, Text.EndsInWord d.key) ∧
      ((declared nested).map fun d => (d.path, d.key)).Nodup ∧
      ∃ t₂ w₂ t₃ w₃, ofZerosAndVault.run .redact false nested zeros = (.ok t₂, w₂) ∧
        ofZerosAndVault.run .unredact true t₂ w₂ = (.ok t₃, w₃) ∧ t₃ ≠ nested) ∧
    ¬sealedOpener <:+: trailing ∧ ¬lookupMarker <:+: trailing ∧
      (∀ d ∈ declared trailing, Text.EndsInWord d.key) ∧
      ((declared trailing).map fun d => (d.path, d.key)).Nodup ∧
      ∃ t₂ w₂ f w₃, ofZerosAndVault.run .redact false trailing zeros = (.ok t₂, w₂) ∧
        ofZerosAndVault.run .unredact true t₂ w₂ = (.error f, w₃) := by
  constructor
  · refine ⟨by decide +kernel, by decide +kernel, by decide +kernel, by decide +kernel, ?_⟩
    obtain ⟨r, t₂, w₂, t₃, w₃, -, hredact, hunredact, rfl⟩ :=
      exists_run_run_nested ⟨List.replicate 32 0, rfl⟩ (rfl : zeros.vault = .memory [] [])
    refine ⟨t₂, w₂, _, w₃, hredact, hunredact, fun h => ?_⟩
    -- a hyphen where the text has a colon
    have hsign : some '-' = some ':' := congrArg (fun t : Text => t[23]?) h
    cases hsign
  · exact ⟨by decide +kernel, by decide +kernel, by decide +kernel, by decide +kernel,
      _, _, _, _, rfl, rfl⟩

end Tool

end InlineSecrets
