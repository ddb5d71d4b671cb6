/-
**What is sealed is not sealed again.**

The markers of sealed secrets look almost like those of plain ones: their names begin with the same
letters, and the closing one holds what closes a plain secret.  So a sealed secret that is put into
a text might close what was left open in front of it, or begin a new plain secret.  It does neither.
A plain secret that it would close was closed before, by the plain secret in whose place it stands;
and the opening marker of a plain secret does not begin in it, as long as what is sealed does not
end with the word that the marker consists of.  Then no plain secret is left in the text, and to
seal it again changes nothing.

Main definitions:

* `InlineSecrets.secretName` — the marker of plain secrets without its colon.

Main results:

* `InlineSecrets.Enclosure.isSome_token?_iff` — a token is found where one is closed on its line;
* `InlineSecrets.Piece.token?_plain_withSealed` — sealed secrets do not close what was left open;
* `InlineSecrets.Piece.not_prefix_drop_encrypted` — no plain secret begins in a sealed one;
* `InlineSecrets.Family.not_suffix_of_transformAll_sealing` — payloads of which nothing ends like
  the marker;
* `InlineSecrets.Tool.exists_run_run_sealed` — **a text in which secrets have been sealed stays as
  it is.**
-/

import InlineSecrets.Proofs.Grammar
import InlineSecrets.Proofs.Slots

set_option relaxedAutoImplicit false
set_option autoImplicit false

namespace InlineSecrets

/-- The marker of plain secrets without the colon that ends it. -/
def secretName : Text := "secret".toList

/-! ### Where an enclosed token is found -/

namespace Enclosure

variable {e : Enclosure}

/-- **A token is found exactly where one is opened and closed on the same line,** wherever the first
closing marker is. -/
theorem isSome_token?_iff (hcloser : e.closer ≠ []) {before : Option Char} {t : Text} :
    (e.token? before t).isSome ↔ ¬(before.isSome ∧ before = e.barred) ∧
      ∃ q, q ≠ [] ∧ '\n' ∉ q ∧ e.opener ++ (q ++ e.closer) <+: t := by
  rw [Option.isSome_iff_exists]
  constructor
  · rintro ⟨k, hk⟩
    obtain ⟨hbar, r, rfl, hencloses⟩ := (token?_eq_some_iff hcloser).1 hk
    refine ⟨hbar, k.payload, hencloses.payload_ne_nil, hencloses.one_line, r, ?_⟩
    rw [hencloses.envelope_append, List.append_assoc]
  · rintro ⟨hbar, q, hq, hline, z, rfl⟩
    obtain ⟨p, hp, hpline, ⟨rest, hrest⟩, hfirst⟩ :=
      exists_first hq hline (List.prefix_append (q ++ e.closer) z)
    rw [List.append_assoc, ← hrest]
    rw [← hrest] at hfirst
    have hprefix : p <+: p ++ e.closer ++ rest := by
      rw [List.append_assoc]
      exact List.prefix_append _ _
    have hencloses : e.Encloses ⟨e.opener, p, e.closer⟩ rest :=
      ⟨rfl, rfl, hp, hpline, (forall_drop_iff hprefix).2 hfirst⟩
    exact ⟨_, (token?_eq_some_iff hcloser).2 ⟨hbar, rest, hencloses.envelope_append.symm,
      hencloses⟩⟩

end Enclosure

namespace Piece

open Text

variable {before before' : Option Char} {c : Char} {ps : List Piece} {rs : List Text} {r : Text}

/-! ### In front of a sealed secret -/

/-- In front of its first token, a text has characters of its own. -/
theorem exists_eq_map_plain (ps : List Piece) :
    (∃ u : Text, ps = u.map .plain) ∨
      ∃ (u : Text) (k : Token) (qs : List Piece), ps = u.map .plain ++ .token k :: qs := by
  induction ps with
  | nil => exact Or.inl ⟨[], rfl⟩
  | cons p ps ih =>
      cases p with
      | plain c =>
          rcases ih with ⟨u, rfl⟩ | ⟨u, k, qs, rfl⟩
          · exact Or.inl ⟨c :: u, rfl⟩
          · exact Or.inr ⟨c :: u, k, qs, rfl⟩
      | token k => exact Or.inr ⟨[], k, ps, rfl⟩

/-- An opening marker in front of a sealed secret does not reach into it. -/
theorem secretOpener_prefix_cons {u x : Text}
    (h : secretOpener <+: c :: (u ++ ((Token.encrypted r).envelope ++ x))) :
    secretOpener <+: c :: u := by
  have hopener : secretOpener = 's' :: "ecret:".toList := by decide
  have hsealed : (Token.encrypted r).envelope ++ x =
      's' :: ("ecret-aes-256-gcm:".toList ++ r ++ sealedCloser ++ x) := rfl
  rw [hopener, hsealed] at h
  obtain ⟨hc, htail⟩ := List.cons_prefix_cons.1 h
  rw [hopener]
  exact List.cons_prefix_cons.2 ⟨hc, prefix_of_prefix_append_cons (by decide) htail⟩

/-- What is closed on its line in front of anything is closed in front of a plain secret, by which
it is closed if not before. -/
theorem exists_closed_append_envelope {q u x : Text} {k : Token} {t : Text}
    (hk : Shape.plain.token? before t = some k) (hq : q ≠ []) (hline : '\n' ∉ q)
    (hclosed : q ++ secretCloser <+: u ++ x) (y : Text) :
    ∃ q, q ≠ [] ∧ '\n' ∉ q ∧ q ++ secretCloser <+: u ++ (k.envelope ++ y) := by
  by_cases hbreak : '\n' ∈ u
  · -- the closing marker lies in front of the line break
    obtain ⟨a, b, rfl⟩ := List.append_of_mem hbreak
    have hmarker : '\n' ∉ q ++ secretCloser := by
      rw [List.mem_append, not_or]
      exact ⟨hline, by decide⟩
    rw [List.append_assoc, List.cons_append] at hclosed
    refine ⟨q, hq, hline, (prefix_of_prefix_append_cons hmarker hclosed).trans ?_⟩
    rw [List.append_assoc]
    exact List.prefix_append _ _
  · -- the plain secret is on the same line
    obtain ⟨-, z, -, hencloses⟩ :=
      (Enclosure.token?_eq_some_iff (by decide : secretCloser ≠ [])).1 hk
    refine ⟨u ++ (secretOpener ++ k.payload), ?_, ?_, y, ?_⟩
    · simp [hencloses.payload_ne_nil]
    · rw [List.mem_append, List.mem_append, not_or, not_or]
      exact ⟨hbreak, by decide, hencloses.one_line⟩
    · rw [Shape.envelope_of_token?_plain hk]
      simp only [List.append_assoc]

/-- **Sealed secrets do not close what was left open.**  What they would close was closed before, by
the first plain secret behind it, unless there is a line break in between. -/
theorem token?_plain_withSealed (hps : Reads Shape.plain.token? (some c) ps)
    (hnone : Shape.plain.token? before (c :: text ps) = none)
    (hbarred : before = some '-' → before' = some '-') (hlen : rs.length = (tokens ps).length) :
    Shape.plain.token? before' (c :: text (withSealed ps rs)) = none := by
  have hcloser : secretCloser ≠ [] := by decide
  rw [← Option.not_isSome_iff_eq_none] at hnone ⊢
  intro hsome
  obtain ⟨hbar, q, hq, hline, hclosed⟩ := (Enclosure.isSome_token?_iff hcloser).1 hsome
  -- so a plain secret would have begun at this character before
  refine hnone ((Enclosure.isSome_token?_iff hcloser).2 ⟨?_, ?_⟩)
  · rintro ⟨-, hminus⟩
    exact hbar ⟨by rw [hbarred hminus]; rfl, hbarred hminus⟩
  rcases exists_eq_map_plain ps with ⟨u, rfl⟩ | ⟨u, k, qs, rfl⟩
  · -- there are no other tokens
    have hsame : withSealed (u.map .plain) rs = u.map .plain := by
      rw [withSealed, ← List.append_nil (u.map _), withTokens_map_plain_append]
      rfl
    rw [hsame] at hclosed
    exact ⟨q, hq, hline, hclosed⟩
  · have hk : k ∈ tokens (u.map .plain ++ .token k :: qs) := by
      rw [tokens_map_plain_append]
      exact List.mem_cons_self
    obtain ⟨_, _, hfind⟩ := hps.exists_find hk
    rw [tokens_map_plain_append] at hlen
    cases rs with
    | nil => cases hlen
    | cons r rs =>
        have htext : text (withSealed (u.map .plain ++ .token k :: qs) (r :: rs)) =
            u ++ ((Token.encrypted r).envelope ++ text (withSealed qs rs)) := by
          rw [withSealed, withTokens_map_plain_append, text_append, text_map_plain]
          rfl
        rw [htext] at hclosed
        rw [text_append, text_map_plain, text]
        -- the opening marker lies in front of the first token
        obtain ⟨v, hv⟩ := secretOpener_prefix_cons ((List.prefix_append _ _).trans hclosed)
        rw [← List.cons_append, ← hv, List.append_assoc, List.prefix_append_right_inj] at hclosed
        obtain ⟨q', hq', hline', hclosed'⟩ :=
          exists_closed_append_envelope hfind hq hline hclosed (text qs)
        refine ⟨q', hq', hline', ?_⟩
        rw [← List.cons_append, ← hv, List.append_assoc]
        exact (List.prefix_append_right_inj _).2 hclosed'

/-! ### In a sealed secret -/

/-- **No plain secret begins in a sealed one,** which has colons where its parts meet only. -/
theorem not_prefix_drop_encrypted (hr : Cipher.IsSealed r) (hname : ¬secretName <:+ r) (x : Text)
    {n : Nat} (hn : n < (Token.encrypted r).envelope.length) :
    ¬secretOpener <+: (Token.encrypted r).envelope.drop n ++ x := by
  have hopener : secretOpener = secretName ++ [':'] := by decide
  have hcolon : ':' ∉ sealedName := by decide
  have hsign : ':' ∉ r := fun h => absurd (hr.2 _ h) (by decide)
  have hsuffix : ¬secretName <:+ sealedName := by decide
  intro h
  rcases Token.drop_envelope_encrypted r hn with ⟨u, y, hu, hdrop⟩ | ⟨a, u, hu, hdrop⟩
  · -- it would be all that is in front of a colon
    rw [hdrop, hopener, List.append_assoc, List.cons_append] at h
    rcases hu with hu | hu
    · have hmem : ':' ∉ u := fun hmem => hcolon (hu.subset hmem)
      obtain rfl := eq_of_append_separator_prefix (by decide) hmem h
      exact hsuffix hu
    · have hmem : ':' ∉ u := fun hmem => hsign (hu.subset hmem)
      obtain rfl := eq_of_append_separator_prefix (by decide) hmem h
      exact hname hu
  · -- it would lie in front of the last character of the name, which it does not have
    have hlast : (a :: u).getLast? = some 'm' := by
      obtain ⟨w, hw⟩ := hu
      have hm : (w ++ a :: u).getLast? = some 'm' := by
        rw [hw]
        decide
      simpa [List.getLast?_append, List.getLast?_cons] using hm
    obtain ⟨g, hg⟩ := List.getLast?_eq_some_iff.1 hlast
    rw [hdrop, hg, List.append_assoc] at h
    have hbegins : secretOpener <+: g := prefix_of_prefix_append_cons (by decide) h
    have hmem : ':' ∈ a :: u := hg ▸ List.mem_append_left ['m'] (hbegins.subset (by decide))
    exact hcolon (hu.subset hmem)

/-! ### The text with sealed secrets -/

/-- **No plain secret is found between and in sealed ones** that have been put in the places of
plain ones. -/
theorem reads_plain_withSealed (hps : Reads Shape.plain.token? before ps)
    (hbarred : before = some '-' → before' = some '-') (hlen : rs.length = (tokens ps).length)
    (hrs : ∀ r ∈ rs, Cipher.IsSealed r) (hnames : ∀ r ∈ rs, ¬secretName <:+ r) :
    Reads Shape.plain.token? before' ((text (withSealed ps rs)).map .plain) := by
  induction hps generalizing rs before' with
  | nil => exact .nil
  | @plain before c ps hnone hps ih =>
      have hnone' : Shape.plain.token? before' (c :: text (withSealed ps rs)) = none :=
        token?_plain_withSealed hps hnone hbarred hlen
      rw [← text_map_plain (text (withSealed ps rs))] at hnone'
      exact .plain hnone' (ih id hlen hrs hnames)
  | @token before k ps hsome _ ih =>
      cases rs with
      | nil => simp [tokens] at hlen
      | cons r rs =>
          obtain ⟨hr, hrs⟩ := List.forall_mem_cons.1 hrs
          obtain ⟨hname, hnames⟩ := List.forall_mem_cons.1 hnames
          -- a plain secret ends with a letter, so nothing behind it is barred
          have hlast : k.envelope.getLast? = some 't' := by
            rw [Shape.envelope_of_token?_plain hsome, List.getLast?_append]
            rfl
          have hrest := fun before' => @ih before' rs (fun h => by rw [hlast] at h; cases h)
            (by simpa [tokens] using hlen) hrs hnames
          have htext : text (withSealed (.token k :: ps) (r :: rs)) =
              (Token.encrypted r).envelope ++ text (withSealed ps rs) := rfl
          rw [htext, List.map_append]
          refine reads_map_plain_append (fun before n hn => ?_) (hrest _)
          exact Enclosure.token?_of_not_opened (not_prefix_drop_encrypted hr hname _ hn) before

end Piece

/-! ### What does not end like a marker -/

/-- **What ends with padding:** the sealed form of a payload, unless its bytes are two more than a
multiple of three. -/
theorem Cipher.getLast?_of_sealText {key : Key} {p r : Text} {e e' : Entropy}
    (h : sealText (some key) p e = (.ok r, e')) (hp : (Utf8.encode p).length % 3 ≠ 2) :
    r.getLast? = some '=' := by
  simp only [sealText, sealCodes, Utf8.encodeCodes_ofText, encrypt, key.length_bytes, if_true] at h
  obtain ⟨hr, -⟩ := Prod.mk.inj h
  obtain rfl := Except.ok.inj hr
  refine Base64.getLast?_encode ?_
  rw [List.length_append, length_sealed, Vector.length_toList, nonceSize]
  omega

/-- No sealed form of such payloads ends like the marker of a plain secret. -/
theorem Family.not_suffix_of_transformAll_sealing {key : Key} {ps rs : List Text} {w w' : World}
    (h : Splicing.transformAll (sealing key) ps w = (.ok rs, w'))
    (hps : ∀ p ∈ ps, (Utf8.encode p).length % 3 ≠ 2) : ∀ r ∈ rs, ¬secretName <:+ r := by
  induction ps generalizing rs w with
  | nil =>
      cases h
      intro r hr
      cases hr
  | cons p ps ih =>
      obtain ⟨hp, hps⟩ := List.forall_mem_cons.1 hps
      obtain ⟨r, w₁, rs', hr, hrs, rfl⟩ := Splicing.transformAll_cons_eq_ok_iff.1 h
      refine List.forall_mem_cons.2 ⟨?_, ih hrs hps⟩
      rw [sealing] at hr
      rcases hseal : Cipher.sealText (some key) p w.entropy with ⟨f | r', e'⟩
      · rw [hseal] at hr
        cases hr
      · rw [hseal] at hr
        cases hr
        rintro ⟨u, rfl⟩
        have hlast := Cipher.getLast?_of_sealText hseal hp
        rw [List.getLast?_append] at hlast
        cases hlast

/-! ### Sealing again -/

namespace Tool

open Piece Splicing

/-- **A text in which secrets have been sealed stays as it is.**  For every text, with any sealed
secrets and any markers in it, a tool with a key seals the payloads of its plain secrets and puts
what comes out in their places.  If none of that ends with the word that the markers of plain
secrets consist of, then no plain secret is found in the new text; sealing again, under any key,
yields the same text, and draws no random bytes. -/
theorem exists_run_run_sealed (key : Key) {a : Action} (ha : a = .encode ∨ a = .redact)
    (wrapTokens : Bool) (t : Text) (w : World) :
    ∃ rs t' w', transformAll (Family.sealing key)
        ((Shape.plain.spans t).map (Span.payload · t)).reverse w = (.ok rs.reverse, w') ∧
      (ofParts (some key) false).run a wrapTokens t w = (.ok t', w') ∧
      t' = substitute t (replacements (fun r _ _ => sealedOpener ++ r ++ sealedCloser) t
        (Shape.plain.spans t) rs) ∧
      ((∀ r ∈ rs, ¬"secret".toList <:+ r) → Shape.plain.spans t' = [] ∧
        ∀ key' wrapTokens' w₂, (ofParts (some key') false).run a wrapTokens' t' w₂ =
          (.ok t', w₂)) := by
  obtain ⟨ps, rfl, hps⟩ := exists_reads Shape.lawful_plain none t
  obtain ⟨rs, w', hall, hsealed, hopen⟩ :=
    exists_transformAll_sealing key ((tokens ps).map Token.payload) w
  have hlen : rs.length = (tokens ps).length := by rw [hopen.length_eq, List.length_map]
  refine ⟨rs, text (withSealed ps rs), w', ?_, run_sealing ha wrapTokens hps hall hlen, ?_, ?_⟩
  · rw [Shape.spans, map_payload_scan Shape.lawful_plain hps, hall]
  · rw [Shape.spans_text hps, substitute_wrap _ hlen, text_withSealed]
    rfl
  · intro hnames
    have hreads : Reads Shape.plain.token? none ((text (withSealed ps rs)).map .plain) :=
      reads_plain_withSealed hps id hlen hsealed hnames
    have hnil : Shape.plain.spans (text (withSealed ps rs)) = [] := by
      have h := Shape.spans_text hreads
      rwa [text_map_plain, spansFrom_map_plain] at h
    refine ⟨hnil, fun key' wrapTokens' w₂ => ?_⟩
    obtain ⟨e, he, hlocate, -, hplace⟩ := exists_engine_sealing key' ha wrapTokens'
    rw [run_ofParts he, Engine.run_of_nil hplace (by rw [hlocate, hnil])]

/-- A text with a marker that is barred, a sealed secret, a plain one and a marker that is not
closed. -/
def halfSealed : Text :=
  "-secret:a:secret secret-aes-256-gcm:x:secret-aes-256-gcm secret:b:secret\nsecret:c".toList

theorem exists_run_run_sealed_halfSealed :
    ∃ rs t' w', transformAll (Family.sealing ⟨List.replicate 32 0, rfl⟩)
        ((Shape.plain.spans halfSealed).map (Span.payload · halfSealed)).reverse zeros =
          (.ok rs.reverse, w') ∧
      ofZeros.run .encode false halfSealed zeros = (.ok t', w') ∧
      t' = substitute halfSealed (replacements (fun r _ _ => sealedOpener ++ r ++ sealedCloser)
        halfSealed (Shape.plain.spans halfSealed) rs) ∧
      rs.length = 1 ∧ (∀ r ∈ rs, ¬"secret".toList <:+ r) ∧ Shape.plain.spans t' = [] ∧
      ∀ key' wrapTokens' w₂, (ofParts (some key') false).run .encode wrapTokens' t' w₂ =
        (.ok t', w₂) := by
  obtain ⟨rs, t', w', hall, hrun, ht', hsame⟩ :=
    exists_run_run_sealed ⟨List.replicate 32 0, rfl⟩ (Or.inl rfl) false halfSealed zeros
  have hpayloads : ((Shape.plain.spans halfSealed).map (Span.payload · halfSealed)).reverse =
      ["b".toList] := by decide +kernel
  have hnames : ∀ r ∈ rs, ¬"secret".toList <:+ r := by
    intro r hr
    rw [hpayloads] at hall
    exact Family.not_suffix_of_transformAll_sealing hall (by decide) r (List.mem_reverse.2 hr)
  have hlen : rs.length = 1 := by
    rw [hpayloads] at hall
    obtain ⟨r, w₁, rs', -, hnil, hrs⟩ := transformAll_cons_eq_ok_iff.1 hall
    cases hnil
    rw [← List.length_reverse, hrs]
    rfl
  obtain ⟨hspans, hagain⟩ := hsame hnames
  exact ⟨rs, t', w', hall, hrun, ht', hlen, hnames, hspans, hagain⟩

end Tool

end InlineSecrets
