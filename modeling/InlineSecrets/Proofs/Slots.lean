/-
**Sealed secrets and declarations in one text.**

The second family of a tool sees the text that the first one has made.  When the tokens of the two
lie apart there, the text is cut by both at once: into characters, sealed secrets and declarations.
From these slots all texts are written that there and back make: with secrets that are sealed or
plain, and with declarations or the lookups that take their places.

Main definitions:

* `InlineSecrets.Slot` — a character, a sealed secret or a declaration;
* `InlineSecrets.Slot.write` — the text of slots, from what is written for secrets and declarations;
* `InlineSecrets.Slot.sealedPieces`, `InlineSecrets.Slot.declaredPieces` — the pieces of that text
  for each of the families, to which the tokens of the other are characters.

Main results:

* `InlineSecrets.Slot.exists_slots` — **pieces of one text whose tokens lie apart come from slots;**
* `InlineSecrets.Slot.stands_declaredPieces` — the places of declarations do not depend on what is
  written for secrets;
* `InlineSecrets.Slot.reads_lookup` — **lookups are found in the places of declarations,** whatever
  is written for secrets;
* `InlineSecrets.Slot.reads_encrypted` — **sealed secrets are found between lookups,** too.
-/

import InlineSecrets.Proofs.Keeping

set_option relaxedAutoImplicit false
set_option autoImplicit false

namespace InlineSecrets

open Vault Piece

/-- The marker of sealed secrets without the colon that ends it. -/
def sealedName : Text := "secret-aes-256-gcm".toList

/-- Behind some characters, two texts with a character between them go on with an end of the first
one, that character and the second one, or with an end of the second one. -/
theorem Text.drop_append_cons (a b : Text) (c : Char) (n : Nat) :
    (∃ u, u <:+ a ∧ (a ++ c :: b).drop n = u ++ c :: b) ∨
      ∃ m, n = a.length + 1 + m ∧ (a ++ c :: b).drop n = b.drop m := by
  by_cases hn : n ≤ a.length
  · exact Or.inl ⟨a.drop n, List.drop_suffix n a, List.drop_append_of_le_length hn⟩
  · obtain ⟨m, rfl⟩ : ∃ m, n = a.length + 1 + m := ⟨n - a.length - 1, by omega⟩
    refine Or.inr ⟨m, rfl, ?_⟩
    rw [← List.drop_drop, List.append_cons, List.drop_left' (by simp)]

/-- **Where a marker may begin in a sealed secret:** at an end of the name in front or of what is
sealed, with a colon behind it, or at an end of the name behind. -/
theorem Token.drop_envelope_encrypted (r : Text) {n : Nat}
    (hn : n < (encrypted r).envelope.length) :
    (∃ u x, (u <:+ sealedName ∨ u <:+ r) ∧ (encrypted r).envelope.drop n = u ++ ':' :: x) ∨
      ∃ c u, c :: u <:+ sealedName ∧ (encrypted r).envelope.drop n = c :: u := by
  have hopener : sealedOpener = sealedName ++ [':'] := by decide
  have hcloser : sealedCloser = ':' :: sealedName := by decide
  have hparts : (encrypted r).envelope = sealedName ++ ':' :: (r ++ ':' :: sealedName) := by
    rw [Token.envelope, Token.encrypted, hopener, hcloser]
    simp
  rw [hparts] at hn ⊢
  simp only [List.length_append, List.length_cons] at hn
  rcases Text.drop_append_cons sealedName (r ++ ':' :: sealedName) ':' n with
    ⟨u, hu, hdrop⟩ | ⟨m, rfl, hdrop⟩
  · exact Or.inl ⟨u, _, Or.inl hu, hdrop⟩
  · rcases Text.drop_append_cons r sealedName ':' m with ⟨u, hu, hdrop'⟩ | ⟨l, rfl, hdrop'⟩
    · exact Or.inl ⟨u, _, Or.inr hu, hdrop.trans hdrop'⟩
    · have hl : l < sealedName.length := by omega
      have hcons := List.drop_eq_getElem_cons hl
      exact Or.inr ⟨_, _, hcons ▸ List.drop_suffix l sealedName,
        (hdrop.trans hdrop').trans hcons⟩

/-- A piece of a text in which sealed secrets and declarations are tokens. -/
inductive Slot where
  | plain (c : Char)
  | sealed (r : Text)
  | declared (d : Entry)
  deriving DecidableEq, Repr

namespace Slot

/-! ### Writing slots -/

/-- What is written for a sealed secret. -/
abbrev asSealed (r : Text) : Text := (Token.encrypted r).envelope

/-- What is written for a declaration. -/
abbrev asDeclaration (d : Entry) : Text := d.declaration.envelope

/-- What is written for a lookup in the place of a declaration. -/
abbrev asLookup (d : Entry) : Text := d.lookup.envelope

/-- The text of slots, with `f` for sealed secrets and `g` for declarations. -/
def write (f : Text → Text) (g : Entry → Text) : List Slot → Text
  | [] => []
  | plain c :: ss => c :: write f g ss
  | sealed r :: ss => f r ++ write f g ss
  | declared d :: ss => g d ++ write f g ss

/-- The text that holds the sealed secrets and the declarations. -/
def text (ss : List Slot) : Text := write asSealed asDeclaration ss

/-- The pieces in which sealed secrets are tokens. -/
def sealedPieces (g : Entry → Text) : List Slot → List Piece
  | [] => []
  | plain c :: ss => .plain c :: sealedPieces g ss
  | sealed r :: ss => .token (Token.encrypted r) :: sealedPieces g ss
  | declared d :: ss => (g d).map .plain ++ sealedPieces g ss

/-- The pieces in which declarations are tokens. -/
def declaredPieces (f : Text → Text) (g : Entry → Token) : List Slot → List Piece
  | [] => []
  | plain c :: ss => .plain c :: declaredPieces f g ss
  | sealed r :: ss => (f r).map .plain ++ declaredPieces f g ss
  | declared d :: ss => .token (g d) :: declaredPieces f g ss

/-- The sealed payloads, in order. -/
def payloads : List Slot → List Text
  | [] => []
  | plain _ :: ss | declared _ :: ss => payloads ss
  | sealed r :: ss => r :: payloads ss

/-- The entries that are declared, in order. -/
def entries : List Slot → List Entry
  | [] => []
  | plain _ :: ss | sealed _ :: ss => entries ss
  | declared d :: ss => d :: entries ss

variable {ss : List Slot}

theorem text_sealedPieces (g : Entry → Text) (ss : List Slot) :
    Piece.text (sealedPieces g ss) = write asSealed g ss := by
  induction ss with
  | nil => rfl
  | cons s ss ih => cases s <;> simp [sealedPieces, Piece.text, write, ih]

theorem text_declaredPieces (f : Text → Text) (g : Entry → Token) (ss : List Slot) :
    Piece.text (declaredPieces f g ss) = write f (fun d => (g d).envelope) ss := by
  induction ss with
  | nil => rfl
  | cons s ss ih => cases s <;> simp [declaredPieces, Piece.text, write, ih]

theorem tokens_sealedPieces (g : Entry → Text) (ss : List Slot) :
    tokens (sealedPieces g ss) = (payloads ss).map Token.encrypted := by
  induction ss with
  | nil => rfl
  | cons s ss ih => cases s <;> simp [sealedPieces, tokens, tokens_map_plain_append, payloads, ih]

theorem tokens_declaredPieces (f : Text → Text) (g : Entry → Token) (ss : List Slot) :
    tokens (declaredPieces f g ss) = (entries ss).map g := by
  induction ss with
  | nil => rfl
  | cons s ss ih => cases s <;> simp [declaredPieces, tokens, tokens_map_plain_append, entries, ih]

theorem fill_sealedPieces (g : Entry → Text) (h : Text → Text) (ss : List Slot) :
    fill (sealedPieces g ss) ((payloads ss).map h) = write h g ss := by
  induction ss with
  | nil => rfl
  | cons s ss ih =>
      cases s <;> simp [sealedPieces, fill, fill_map_plain_append, payloads, write, ih]

theorem fill_declaredPieces (f : Text → Text) (g : Entry → Token) (h : Entry → Text)
    (ss : List Slot) : fill (declaredPieces f g ss) ((entries ss).map h) = write f h ss := by
  induction ss with
  | nil => rfl
  | cons s ss ih =>
      cases s <;> simp [declaredPieces, fill, fill_map_plain_append, entries, write, ih]

theorem withTokens_declaredPieces (f : Text → Text) (g h : Entry → Token) (ss : List Slot) :
    withTokens (declaredPieces f g ss) ((entries ss).map h) = declaredPieces f h ss := by
  induction ss with
  | nil => rfl
  | cons s ss ih =>
      cases s <;> simp [declaredPieces, withTokens, withTokens_map_plain_append, entries, ih]

theorem declaredPieces_append (f : Text → Text) (g : Entry → Token) (ss ss' : List Slot) :
    declaredPieces f g (ss ++ ss') = declaredPieces f g ss ++ declaredPieces f g ss' := by
  induction ss with
  | nil => rfl
  | cons s ss ih => cases s <;> simp [declaredPieces, ih]

/-- What is written for the slots behind the first one ends the text. -/
theorem write_suffix_cons (f : Text → Text) (g : Entry → Text) (s : Slot) (ss : List Slot) :
    write f g ss <:+ write f g (s :: ss) := by
  cases s with
  | plain c => exact List.suffix_cons c _
  | sealed r => exact List.suffix_append (f r) _
  | declared d => exact List.suffix_append (g d) _

theorem mem_entries_append {d : Entry} (ss ss' : List Slot) :
    d ∈ entries (ss ++ declared d :: ss') := by
  induction ss with
  | nil => exact List.mem_cons_self
  | cons s ss ih => cases s <;> simp [entries, ih]

/-! ### Cutting a text in two ways at once -/

theorem envelope_encrypted_ne_nil (r : Text) : (Token.encrypted r).envelope ≠ [] :=
  List.append_ne_nil_of_right_ne_nil _ (by decide : sealedCloser ≠ [])

theorem envelope_declaration_ne_nil (d : Entry) : d.declaration.envelope ≠ [] := by
  rw [Entry.envelope_declaration]
  exact List.append_ne_nil_of_left_ne_nil (by decide) _

/-- Where a text begins with characters in which no token begins, so do its pieces. -/
theorem exists_eq_map_plain_append {ps : List Piece} {u t : Text} {pos : Nat}
    (ht : Piece.text ps = u ++ t)
    (hbehind : ∀ s ∈ spansFrom pos ps, ((pos + u.length : Nat) : Int) ≤ s.envelopeStart) :
    ∃ ps', ps = u.map .plain ++ ps' ∧ Piece.text ps' = t := by
  induction u generalizing ps pos with
  | nil => exact ⟨ps, rfl, ht⟩
  | cons c u ih =>
      rw [List.length_cons] at hbehind
      cases ps with
      | nil => cases ht
      | cons p ps =>
          cases p with
          | plain c' =>
              rw [Piece.text, List.cons_append] at ht
              obtain ⟨rfl, ht'⟩ := List.cons.inj ht
              have hbehind' : ∀ s ∈ spansFrom (pos + 1) ps,
                  ((pos + 1 + u.length : Nat) : Int) ≤ s.envelopeStart := fun s hs => by
                have := hbehind s hs
                omega
              obtain ⟨ps', rfl, hps'⟩ := ih ht' hbehind'
              exact ⟨ps', rfl, hps'⟩
          | token k =>
              have hk := hbehind _ List.mem_cons_self
              simp only [Token.span] at hk
              omega

/-- Behind a token of one kind, the other kind of tokens begins behind its end. -/
theorem le_envelopeStart_of_disjoint {k : Token} {qs : List Piece} {pos : Nat}
    (hne : ∀ l ∈ tokens qs, l.envelope ≠ [])
    (hapart : ∀ s' ∈ spansFrom pos qs, (k.span pos).Disjoint s') :
    ∀ s' ∈ spansFrom pos qs, ((pos + k.envelope.length : Nat) : Int) ≤ s'.envelopeStart := by
  intro s' hs'
  obtain ⟨l, hl, p, hp, rfl⟩ := exists_of_mem_spansFrom hs'
  have hlen := List.length_pos_iff.2 (hne l hl)
  have hdisjoint := hapart _ hs'
  simp only [Span.Disjoint, Span.Precedes, Token.span, Token.length_envelope] at hdisjoint hlen ⊢
  omega

/-- **Pieces of one text whose tokens lie apart come from slots.** -/
theorem exists_slots {ps qs : List Piece} {rs : List Text} {ds : List Entry} {pos : Nat}
    (hps : tokens ps = rs.map Token.encrypted) (hqs : tokens qs = ds.map Entry.declaration)
    (htext : Piece.text ps = Piece.text qs)
    (hapart : ∀ s ∈ spansFrom pos ps, ∀ s' ∈ spansFrom pos qs, s.Disjoint s') :
    ∃ ss, payloads ss = rs ∧ entries ss = ds ∧ sealedPieces asDeclaration ss = ps ∧
      declaredPieces asSealed Entry.declaration ss = qs := by
  -- the rest of the text becomes shorter with each slot
  induction hn : (Piece.text ps).length using Nat.strongRecOn
    generalizing ps qs rs ds pos with
  | ind n ih =>
      have hne₁ : ∀ k ∈ tokens ps, k.envelope ≠ [] := by
        rw [hps]
        rintro _ hk
        obtain ⟨r, -, rfl⟩ := List.mem_map.1 hk
        exact envelope_encrypted_ne_nil r
      have hne₂ : ∀ k ∈ tokens qs, k.envelope ≠ [] := by
        rw [hqs]
        rintro _ hk
        obtain ⟨d, -, rfl⟩ := List.mem_map.1 hk
        exact envelope_declaration_ne_nil d
      rcases ps with _ | ⟨c | k, ps⟩
      · -- nothing is left
        rcases qs with _ | ⟨c | l, qs⟩
        · exact ⟨[], (List.map_eq_nil_iff.1 hps.symm).symm, (List.map_eq_nil_iff.1 hqs.symm).symm,
            rfl, rfl⟩
        · cases htext
        · exact absurd (List.append_eq_nil_iff.1 htext.symm).1 (hne₂ l List.mem_cons_self)
      · rcases qs with _ | ⟨c' | l, qs⟩
        · cases htext
        · -- a character
          obtain ⟨rfl, htext'⟩ := List.cons.inj htext
          have hlt : (Piece.text ps).length < n := by rw [← hn]; exact Nat.lt_succ_self _
          have hps' : tokens ps = rs.map Token.encrypted := hps
          have hqs' : tokens qs = ds.map Entry.declaration := hqs
          obtain ⟨ss, hrs, hds, hss, hss'⟩ := ih _ hlt hps' hqs' htext' hapart rfl
          exact ⟨plain c :: ss, hrs, hds, by rw [sealedPieces, hss], by rw [declaredPieces, hss']⟩
        · -- a declaration
          obtain ⟨d, ds', rfl, hd, hqs'⟩ := List.map_eq_cons_iff.1 hqs.symm
          have hbehind := le_envelopeStart_of_disjoint hne₁
            fun s hs => (hapart s hs _ List.mem_cons_self).symm
          obtain ⟨ps', hps', htext'⟩ := exists_eq_map_plain_append htext hbehind
          have hlt : (Piece.text ps').length < n := by
            have := List.length_pos_iff.2 (hne₂ l List.mem_cons_self)
            rw [← hn, hps', text_append, text_map_plain, List.length_append]
            omega
          rw [hps', spansFrom_map_plain_append] at hapart
          rw [hps', tokens_map_plain_append] at hps
          obtain ⟨ss, hrs, hds, hss, hss'⟩ := ih _ hlt hps hqs'.symm htext'
            (fun s hs s' hs' => hapart s hs s' (List.mem_cons_of_mem _ hs')) rfl
          refine ⟨declared d :: ss, hrs, congrArg (d :: ·) hds, ?_, ?_⟩
          · rw [sealedPieces, hss, asDeclaration, hd, hps']
          · rw [declaredPieces, hss', hd]
      · -- a sealed secret
        obtain ⟨r, rs', rfl, hr, hps'⟩ := List.map_eq_cons_iff.1 hps.symm
        have hbehind := le_envelopeStart_of_disjoint hne₂
          fun s hs => hapart _ List.mem_cons_self s hs
        obtain ⟨qs', hqs', htext'⟩ := exists_eq_map_plain_append htext.symm hbehind
        have hlt : (Piece.text ps).length < n := by
          have := List.length_pos_iff.2 (hne₁ k List.mem_cons_self)
          rw [← hn, Piece.text, List.length_append]
          omega
        rw [hqs', spansFrom_map_plain_append] at hapart
        rw [hqs', tokens_map_plain_append] at hqs
        obtain ⟨ss, hrs, hds, hss, hss'⟩ := ih _ hlt hps'.symm hqs htext'.symm
          (fun s hs s' hs' => hapart s (List.mem_cons_of_mem _ hs) s' hs') rfl
        refine ⟨sealed r :: ss, congrArg (r :: ·) hrs, hds, ?_, ?_⟩
        · rw [sealedPieces, hss, hr]
        · rw [declaredPieces, hss', asSealed, hr, hqs']

/-! ### Declarations where they stand -/

section Declarations

open Reference Text

/-- Sealed secrets and declarations begin with word characters, and end with them. -/
theorem exists_asSealed_eq_cons (r : Text) :
    ∃ c u, asSealed r = c :: u ∧ isPart c = true ∧ isWord c = true :=
  ⟨'s', _, rfl, by decide, by decide⟩

@[inherit_doc exists_asSealed_eq_cons]
theorem exists_asDeclaration_eq_cons (d : Entry) :
    ∃ c u, asDeclaration d = c :: u ∧ isPart c = true ∧ isWord c = true :=
  ⟨'v', _, rfl, by decide, by decide⟩

@[inherit_doc exists_asSealed_eq_cons]
theorem endsInWord_asSealed (r : Text) : EndsInWord (asSealed r) :=
  endsInWord_append (by decide : EndsInWord sealedCloser)

/-- A text that begins with a word character is not settled. -/
theorem not_settled_cons {c : Char} {t : Text} (hpart : isPart c = true) (hword : isWord c = true) :
    ¬Settled (c :: t) := by
  intro h
  rw [(settled_cons_iff.1 h hpart).1] at hword
  cases hword

/-- **A text of slots stays settled,** whatever is written for secrets and declarations: the first
of them comes behind the end of the run. -/
theorem settled_write (h : Settled (text ss)) (f : Text → Text) (g : Entry → Text) :
    Settled (write f g ss) := by
  induction ss with
  | nil => exact h
  | cons s ss ih =>
      cases s with
      | plain c =>
          rw [text, write, settled_cons_iff] at h
          rw [write, settled_cons_iff]
          exact fun hc => ⟨(h hc).1, ih (h hc).2⟩
      | sealed r =>
          obtain ⟨c, u, hr, hpart, hword⟩ := exists_asSealed_eq_cons r
          rw [text, write, hr] at h
          exact absurd h (not_settled_cons hpart hword)
      | declared d =>
          obtain ⟨c, u, hd, hpart, hword⟩ := exists_asDeclaration_eq_cons d
          rw [text, write, hd] at h
          exact absurd h (not_settled_cons hpart hword)

theorem stands_map_plain_append {e : Reference} (u : Text) {ps : List Piece}
    {before : Option Char} :
    Stands e before (u.map .plain ++ ps) ↔ Stands e (u.getLast?.or before) ps := by
  induction u generalizing before with
  | nil => simp
  | cons c u ih =>
      rw [getLast?_cons_or, ← ih]
      constructor
      · intro h
        cases h with
        | plain h => exact h
      · exact .plain

/-- **Declarations stand where they are whatever is written for sealed secrets.** -/
theorem stands_declaredPieces {e : Reference} {before before' : Option Char}
    (hbefore : before.any isWord = false → before'.any isWord = false)
    (h : Stands e before (declaredPieces asSealed Entry.declaration ss)) (f : Text → Text) :
    Stands e before' (declaredPieces f Entry.declaration ss) := by
  induction ss generalizing before before' with
  | nil => exact .nil
  | cons s ss ih =>
      cases s with
      | plain c =>
          cases h with
          | plain h => exact .plain (ih id h)
      | sealed r =>
          rw [declaredPieces, stands_map_plain_append] at h ⊢
          refine ih (fun hlast => ?_) h
          -- a sealed secret ends with a word character
          have hword := endsInWord_asSealed r
          rw [List.getLast?_eq_some_getLast hword.ne_nil, Option.some_or,
            ← List.getLast?_eq_some_getLast hword.ne_nil] at hlast
          rw [EndsInWord, hlast] at hword
          cases hword
      | declared d =>
          cases h with
          | token hword hk h =>
              have hsettled := hk.settled
              rw [text_declaredPieces] at hsettled
              refine .token (hbefore hword)
                ⟨hk.opening_eq, hk.closing_eq, hk.isPayload, ?_⟩ (ih id h)
              rw [text_declaredPieces]
              exact settled_write hsettled f _

/-- **Lookups are found in the places of declarations,** whatever is written for sealed secrets,
when the text with declarations did not hold their marker. -/
theorem reads_lookup
    (h : Stands ⟨declarationMarker, 2⟩ none (declaredPieces asSealed Entry.declaration ss))
    (hkeys : ∀ d ∈ entries ss, d.IsLocated ∧ EndsInWord d.key) (f : Text → Text)
    (hno : ¬lookupMarker <:+: write f asDeclaration ss) :
    Reads Shape.lookup.token? none (declaredPieces f Entry.lookup ss) := by
  rw [← withTokens_declaredPieces f Entry.declaration]
  refine reads_lookups (stands_declaredPieces id h f) ?_ ?_ hkeys
  · rwa [text_declaredPieces]
  · rw [tokens_declaredPieces, List.length_map]

end Declarations

/-! ### Sealed secrets between lookups -/

section Encrypted

open Reference Text

/-- The text of slots with sealed secrets and lookups. -/
def redacted (ss : List Slot) : Text := write asSealed asLookup ss

/-- A redacted text goes on with characters of its own up to the first sealed secret or lookup. -/
theorem exists_redacted (f : Text → Text) (ss : List Slot) :
    ∃ g r, redacted ss = g ++ r ∧ g <+: write f asDeclaration ss ∧
      (r = [] ∨ sealedOpener <+: r ∨ ∃ u, r = 'v' :: u) := by
  induction ss with
  | nil => exact ⟨[], [], rfl, List.nil_prefix, Or.inl rfl⟩
  | cons s ss ih =>
      cases s with
      | plain c =>
          obtain ⟨g, r, hss, hg, hr⟩ := ih
          exact ⟨c :: g, r, congrArg (c :: ·) hss, List.cons_prefix_cons.2 ⟨rfl, hg⟩, hr⟩
      | sealed r =>
          refine ⟨[], (Token.encrypted r).envelope ++ redacted ss, rfl, List.nil_prefix,
            Or.inr (Or.inl ?_)⟩
          rw [Token.envelope, List.append_assoc, List.append_assoc]
          exact List.prefix_append _ _
      | declared d =>
          have hmarker : lookupMarker = 'v' :: "ault:".toList := by decide
          refine ⟨[], d.lookup.envelope ++ redacted ss, rfl, List.nil_prefix, Or.inr (Or.inr ?_)⟩
          rw [Entry.envelope_lookup, hmarker]
          exact ⟨_, rfl⟩

/-- **No sealed secret begins at a character of the text,** when the text did not hold their marker.
-/
theorem not_prefix_redacted {f : Text → Text} {c : Char}
    (hno : ¬sealedOpener <:+: write f asDeclaration (plain c :: ss)) :
    ¬sealedOpener <+: c :: redacted ss := by
  have hborderless : sealedOpener.Borderless := by decide
  obtain ⟨g, r, hss, hg, hr⟩ := exists_redacted f ss
  have hnot : ¬sealedOpener <+: c :: g := fun h =>
    hno (h.trans (List.cons_prefix_cons.2 ⟨rfl, hg⟩)).isInfix
  rw [hss, ← List.cons_append]
  rcases hr with rfl | hr | ⟨u, rfl⟩
  · exact hborderless.not_prefix_append (List.cons_ne_nil c g) hnot (Or.inl rfl)
  · exact hborderless.not_prefix_append (List.cons_ne_nil c g) hnot (Or.inr hr)
  · exact fun h => hnot (prefix_of_prefix_append_cons (by decide) h)

/-- A redacted text begins with a colon where the text did. -/
theorem colon_prefix_text (h : [':'] <+: redacted ss) : [':'] <+: text ss := by
  cases ss with
  | nil => exact h
  | cons s ss =>
      cases s with
      | plain c => exact List.cons_prefix_cons.2 ⟨(List.cons_prefix_cons.1 h).1, List.nil_prefix⟩
      | sealed r => exact absurd (List.cons_prefix_cons.1 h).1 (by decide)
      | declared d => exact absurd (List.cons_prefix_cons.1 h).1 (by decide)

/-- The one way to go on with the marker of sealed secrets behind the end of a lookup. -/
theorem eq_colon_of_settled {u r : Text} (hsettled : Settled r) (h : sealedOpener <+: u ++ r)
    (hlt : u.length < sealedOpener.length) : u = sealedName ∧ [':'] <+: r := by
  obtain ⟨v, hv⟩ := List.prefix_of_prefix_length_le (List.prefix_append u r) h (Nat.le_of_lt hlt)
  rw [← hv, List.prefix_append_right_inj] at h
  -- what follows the lookup would hold word characters, if it were more than the colon
  have hpart : ∀ c ∈ v, isPart c = true := by
    have hopener : sealedOpener.all isPart = true := by decide
    exact fun c hc => List.all_eq_true.1 hopener c (hv ▸ List.mem_append_right u hc)
  have hword : ∀ c ∈ v, isWord c = false := by
    obtain ⟨w, rfl⟩ := h
    rw [Settled, takeWhile_append hpart] at hsettled
    exact fun c hc => hsettled c (List.mem_append_left _ hc)
  have hends : ∀ n < sealedOpener.length, (sealedOpener.drop n).any isWord = false →
      sealedOpener.take n = sealedName ∧ sealedOpener.drop n = [':'] := by decide
  obtain ⟨hname, hcolon⟩ := hends u.length hlt (by
    rw [← hv, List.drop_left, List.any_eq_false]
    exact fun c hc => Bool.not_eq_true _ ▸ hword c hc)
  rw [← hv, List.take_left] at hname
  rw [← hv, List.drop_left] at hcolon
  exact ⟨hname, hcolon ▸ h⟩

/-- **No sealed secret begins in a lookup,** when the text did not hold their marker and none arises
where the key ends. -/
theorem not_prefix_lookup {f : Text → Text} {d : Entry} (hsettled : Settled (text ss))
    (hends : ¬(sealedName <:+ d.key ∧ [':'] <+: text ss))
    (hno : ¬sealedOpener <:+: write f asDeclaration (declared d :: ss)) {n : Nat}
    (hn : n < d.lookup.envelope.length) :
    ¬sealedOpener <+: d.lookup.envelope.drop n ++ redacted ss := by
  intro h
  rw [Entry.envelope_lookup] at h hn
  by_cases hmarker : n < lookupMarker.length
  · -- the marker of lookups has another first character
    rw [List.drop_append_of_le_length (Nat.le_of_lt hmarker), List.drop_eq_getElem_cons hmarker,
      List.cons_append, List.cons_append] at h
    have hs : 's' = lookupMarker[n] := (List.cons_prefix_cons.1 h).1
    exact absurd (hs ▸ List.getElem_mem hmarker) (by decide : 's' ∉ lookupMarker)
  · obtain ⟨m, rfl⟩ := Nat.exists_eq_add_of_le (Nat.le_of_not_lt hmarker)
    rw [List.drop_append] at h
    simp only [Nat.add_sub_cancel_left, List.drop_eq_nil_of_le (Nat.le_add_right _ m),
      List.nil_append] at h
    rw [List.length_append, Nat.add_lt_add_iff_left] at hn
    have hlocation : d.location <:+: d.declaration.envelope := by
      rw [Entry.envelope_declaration, ← d.location_append]
      exact ⟨declarationMarker, '#' :: d.value, by simp⟩
    have hinfix : d.location <:+: write f asDeclaration (declared d :: ss) :=
      hlocation.trans (List.prefix_append _ _).isInfix
    by_cases hlt : (d.location.drop m).length < sealedOpener.length
    · -- the marker goes on behind the key
      obtain ⟨hname, hcolon⟩ := eq_colon_of_settled (settled_write hsettled _ _) h hlt
      have hsuffix : sealedName <:+ d.path ++ '#' :: d.key :=
        hname ▸ List.drop_suffix m d.location
      exact hends ⟨suffix_of_suffix_append_cons (by decide) hsuffix, colon_prefix_text hcolon⟩
    · -- the marker lies in the path and the key
      have hbegins := List.prefix_of_prefix_length_le h
        (List.prefix_append (d.location.drop m) _) (Nat.le_of_not_lt hlt)
      exact hno ((hbegins.isInfix.trans (List.drop_suffix m _).isInfix).trans hinfix)

/-- **Sealed secrets are found between lookups.** -/
theorem reads_encrypted {f : Text → Text} (hsealed : ∀ r ∈ payloads ss, Cipher.IsSealed r)
    (hends : ∀ d ss', declared d :: ss' <:+ ss →
      Settled (text ss') ∧ ¬(sealedName <:+ d.key ∧ [':'] <+: text ss'))
    (hno : ¬sealedOpener <:+: write f asDeclaration ss) (before : Option Char) :
    Reads Shape.encrypted.token? before (sealedPieces asLookup ss) := by
  induction ss generalizing before with
  | nil => exact .nil
  | cons s ss ih =>
      have htext := text_sealedPieces asLookup ss
      have hends' : ∀ d ss', declared d :: ss' <:+ ss → _ :=
        fun d ss' h => hends d ss' (h.trans (List.suffix_cons _ _))
      have hno' : ¬sealedOpener <:+: write f asDeclaration ss :=
        fun h => hno (h.trans (write_suffix_cons f asDeclaration s ss).isInfix)
      cases s with
      | plain c =>
          refine .plain (Enclosure.token?_of_not_opened ?_ before)
            (ih hsealed hends' hno' _)
          rw [htext]
          exact not_prefix_redacted hno
      | sealed r =>
          have hencloses := Token.encloses_encrypted (hsealed r List.mem_cons_self)
          refine .token ((Enclosure.token?_eq_some_iff (by decide : sealedCloser ≠ [])).2
            ⟨?_, _, rfl, hencloses _⟩)
            (ih (fun r' hr' => hsealed r' (List.mem_cons_of_mem r hr')) hends' hno' _)
          rintro ⟨hsome, rfl⟩
          cases hsome
      | declared d =>
          obtain ⟨hsettled, hend⟩ := hends d ss List.suffix_rfl
          refine reads_map_plain_append (fun before n hn => ?_) (ih hsealed hends' hno' _)
          rw [htext]
          exact Enclosure.token?_of_not_opened (not_prefix_lookup hsettled hend hno hn) before

end Encrypted

end Slot

end InlineSecrets
