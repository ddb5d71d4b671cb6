/-
**A failing token aborts the operation.**

An engine that cannot transform one of its tokens yields no text.  It has then transformed the
tokens behind that one, from the last one on, and none in front of it.  Its failure names the token
by its payload and its offset in the text that was given, although the text it worked on is another
one.

Which calls were made is not seen from the state alone.  So the engine is run once more with a
transformation that keeps a record of the payloads it is called for; that changes nothing else.

When a vault does not take a declaration, the declarations behind it have been written, and the
vault holds nothing else that is new.

Main definitions:

* `InlineSecrets.Splicing.recording`, `InlineSecrets.Engine.recording` — the record of the calls,
  which `InlineSecrets.Splicing.withoutCalls` leaves out again;
* `InlineSecrets.Engine.AbortsAt` — **how an engine fails at a token;**
* `InlineSecrets.Vault.Client.contents` — a client without the requests that it has received;
* `InlineSecrets.Vault.Client.writeAll` — writing several entries.

Main results:

* `InlineSecrets.Engine.withoutCalls_run` — keeping a record changes nothing;
* `InlineSecrets.Engine.exists_abortsAt` — an engine fails at the first token that it cannot
  transform, counted from the last one;
* `InlineSecrets.Family.exists_abortsAt_keeping` — what a vault holds when redacting fails;
* `InlineSecrets.Engine.aborts_of_failing` — **the two together.**
-/

import InlineSecrets.Proofs.Grammar
import InlineSecrets.Proofs.Keeping

set_option relaxedAutoImplicit false
set_option autoImplicit false

namespace InlineSecrets

/-! ### The record of the calls -/

namespace Splicing

variable {σ ε : Type} {f : Transform σ ε} {place : Placing}

/-- A transformation with a record of the payloads that it is called for, in the order of the
calls. -/
def recording (f : Transform σ ε) : Transform (σ × List Text) ε := fun p s =>
  let (r, s₁) := f p s.1
  (r, s₁, s.2 ++ [p])

/-- What comes out, apart from the record. -/
def withoutCalls {α : Type} (x : α × σ × List Text) : α × σ := (x.1, x.2.1)

theorem withoutCalls_spliceEach (ks : List Span) (t : Text) (s : σ) (calls : List Text) :
    withoutCalls (spliceEach (recording f) place ks t (s, calls)) =
      spliceEach f place ks t s := by
  induction ks generalizing t s calls with
  | nil => rfl
  | cons k ks ih =>
      simp only [spliceEach, recording]
      rcases f (k.payload t) s with ⟨_ | r, s₁⟩
      · rfl
      · exact ih _ _ _

theorem withoutCalls_transformAll (ps : List Text) (s : σ) (calls : List Text) :
    withoutCalls (transformAll (recording f) ps (s, calls)) = transformAll f ps s := by
  induction ps generalizing s calls with
  | nil => rfl
  | cons p ps ih =>
      simp only [transformAll, recording]
      rcases f p s with ⟨_ | r, s₁⟩
      · rfl
      · simp only [← ih s₁ (calls ++ [p])]
        rfl

/-- Where all calls succeed, the record shows all payloads. -/
theorem transformAll_recording_of_eq_ok {ps rs : List Text} {s s' : σ}
    (h : transformAll f ps s = (.ok rs, s')) (calls : List Text) :
    transformAll (recording f) ps (s, calls) = (.ok rs, s', calls ++ ps) := by
  induction ps generalizing s rs calls with
  | nil =>
      cases h
      rw [transformAll, List.append_nil]
  | cons p ps ih =>
      obtain ⟨r, s₁, rs', hp, hps, rfl⟩ := transformAll_cons_eq_ok_iff.1 h
      refine transformAll_cons_eq_ok_iff.2 ⟨r, (s₁, calls ++ [p]), rs', ?_, ?_, rfl⟩
      · rw [recording, hp]
      · rw [ih hps, List.append_assoc, List.singleton_append]

end Splicing

namespace Engine

open Splicing

variable {σ ε : Type}

/-- The engine with a record of the payloads that its transformation is called for. -/
def recording (e : Engine σ ε) : Engine (σ × List Text) ε where
  action := e.action
  family := e.family
  locate := e.locate
  transform := Splicing.recording e.transform
  wrapper := e.wrapper

theorem withoutCalls_splice (e : Engine σ ε) (place : Placing) (ks : List Span) (t : Text) (s : σ)
    (calls : List Text) :
    withoutCalls (e.recording.splice place ks t (s, calls)) = e.splice place ks t s := by
  simp only [splice, spliceBack, recording]
  rw [← withoutCalls_spliceEach ks.reverse t s calls]
  rcases spliceEach (Splicing.recording e.transform) place ks.reverse t (s, calls) with
    ⟨_ | _, s'⟩ <;> rfl

/-- **Keeping a record changes nothing.** -/
theorem withoutCalls_run (e : Engine σ ε) (wrapTokens : Bool) (t : Text) (s : σ)
    (calls : List Text) :
    withoutCalls (e.recording.run wrapTokens t (s, calls)) = e.run wrapTokens t s := by
  have hplacing : e.recording.placing? wrapTokens = e.placing? wrapTokens := rfl
  by_cases hwrapper : e.action = .redact ∧ e.wrapper.isNone
  · have hrecording : e.recording.action = .redact ∧ e.recording.wrapper.isNone := hwrapper
    rw [run, run, if_pos hwrapper, if_pos hrecording]
    rfl
  · have hrecording : ¬(e.recording.action = .redact ∧ e.recording.wrapper.isNone) := hwrapper
    rw [run, run, if_neg hwrapper, if_neg hrecording, hplacing]
    simp only [show e.recording.locate = e.locate from rfl]
    cases e.locate t with
    | error c => rfl
    | ok ks =>
        cases e.placing? wrapTokens with
        | some place => exact withoutCalls_splice e place ks t s calls
        | none =>
            cases hlast : ks.getLast? with
            | none => simp only [hlast]; rfl
            | some k =>
                -- only the last token is transformed
                simp only [hlast, ← withoutCalls_splice e bare [k] t s calls]
                rcases e.recording.splice bare [k] t (s, calls) with ⟨_ | _, s'⟩ <;> rfl

/-! ### The first token that cannot be transformed -/

/-- An engine to which nothing is missing knows what to put in place of envelopes. -/
theorem exists_placing? {e : Engine σ ε}
    (hwrapper : e.action = .encode ∨ e.action = .redact → e.wrapper.isSome) (wrapTokens : Bool) :
    ∃ place, e.placing? wrapTokens = some place := by
  unfold placing?
  cases ha : e.action with
  | encode | redact =>
      obtain ⟨wrap, hwrap⟩ := Option.isSome_iff_exists.1 (hwrapper (by simp [ha]))
      rw [hwrap]
      exact ⟨_, rfl⟩
  | decode | unredact => exact ⟨_, rfl⟩

/-- **The engine fails at the token at `k`,** behind which are the tokens at `back`.  These are
transformed, and then the transformation fails for `k`, which is the last call that is made.  The
failure holds the payload of the token in the text that was given; where payloads are secret, its
wording names the offset in that text instead. -/
structure AbortsAt (e : Engine σ ε) (wrapTokens : Bool) (t : Text) (s : σ) (k : Span)
    (back : List Span) (c : ε) (s' : σ) : Prop where
  transformed : ∃ rs s₁, transformAll e.transform (back.map (Span.payload · t)).reverse s =
    (.ok rs, s₁) ∧ e.transform (k.payload t) s₁ = (.error c, s')
  run_eq : e.run wrapTokens t s =
    (.error (.transforming e.action e.family (k.payload t) k.envelopeStart c), s')
  calls_eq : (e.recording.run wrapTokens t (s, [])).2 =
    (s', (back.map (Span.payload · t)).reverse ++ [k.payload t])
  message_eq : e.action = .encode ∨ e.action = .redact → ∀ wording : ε → String,
    (Failure.transforming e.action e.family (k.payload t) k.envelopeStart c).message wording =
      String.ofList e.family ++ ": failed to " ++ e.action.word ++ " " ++
        ("token at offset " ++ toString k.envelopeStart) ++ ": " ++ wording c

/-- **An engine fails at the first token that it cannot transform,** counted from the last one. -/
theorem exists_abortsAt {e : Engine σ ε} (wrapTokens : Bool) {t : Text} {ks : List Span} {c : ε}
    {s s' : σ} (hwrapper : e.action = .encode ∨ e.action = .redact → e.wrapper.isSome)
    (hlocate : e.locate t = .ok ks) (hfits : ∀ k ∈ ks, k.Fits t)
    (hord : ks.Pairwise Span.Precedes)
    (hall : transformAll e.transform (ks.map (Span.payload · t)).reverse s = (.error c, s')) :
    ∃ front k back, ks = front ++ k :: back ∧ e.AbortsAt wrapTokens t s k back c s' := by
  obtain ⟨place, hplace⟩ := exists_placing? hwrapper wrapTokens
  -- the transformation that keeps a record fails in the same way
  rcases hrecorded : transformAll e.recording.transform (ks.map (Span.payload · t)).reverse (s, [])
    with ⟨_, s₂, calls⟩
  have hsame :=
    withoutCalls_transformAll (f := e.transform) (ks.map (Span.payload · t)).reverse s []
  rw [hall] at hsame
  obtain ⟨rfl, rfl⟩ := Prod.mk.inj ((congrArg withoutCalls hrecorded).symm.trans hsame)
  obtain ⟨front, k, back, rs, ⟨s₁, calls₁⟩, hks, hback, hk, hrun⟩ :=
    exists_run_eq_error_of_placing? (e := e.recording) hplace hlocate hfits hord hrecorded
  have hback' : transformAll e.transform (back.map (Span.payload · t)).reverse s = (.ok rs, s₁) :=
    (withoutCalls_transformAll _ _ _).symm.trans (congrArg withoutCalls hback)
  -- where the calls succeed, the record shows their payloads
  have hcalls₁ := hback.symm.trans (transformAll_recording_of_eq_ok hback' [])
  cases hcalls₁
  have hk' : e.transform (k.payload t) s₁ = (.error c, s₂) := congrArg withoutCalls hk
  have hcalls : _ ++ [k.payload t] = calls := congrArg (fun x => x.2.2) hk
  refine ⟨front, k, back, hks, ⟨rs, s₁, hback', hk'⟩, ?_, ?_, ?_⟩
  · exact (withoutCalls_run e wrapTokens t s []).symm.trans (congrArg withoutCalls hrun)
  · rw [hrun, ← hcalls, List.nil_append]
  · rintro (ha | ha) wording <;> simp [Failure.message, ha, Action.showsPayload]

end Engine

/-! ### The engines of the families -/

namespace Family

variable {family : Family} {a : Action} {e : Engine World Cause}

/-- Every engine of a family finds the tokens of a shape and has a wrapper. -/
theorem exists_engineFor (he : family.engine? a = some e) :
    ∃ shape transform wrapper, e = family.engineFor a shape transform wrapper := by
  cases family <;> cases a <;> cases he <;> exact ⟨_, _, _, rfl⟩

/-- So it knows what to put in place of envelopes. -/
theorem exists_placing? (he : family.engine? a = some e) (wrapTokens : Bool) :
    ∃ place, e.placing? wrapTokens = some place := by
  obtain ⟨shape, transform, wrapper, rfl⟩ := exists_engineFor he
  exact Engine.exists_placing? (fun _ => rfl) wrapTokens

end Family

/-! ### Vaults that do not take a declaration -/

namespace Vault

/-- The server apart from the requests that it has received. -/
def Server.contents (s : Server) : Server := { s with received := [] }

namespace Server

variable {s s' : Server} {path : Text}

theorem contents_read (s : Server) (path : Text) : (s.read path).2.contents = s.contents := by
  rw [read]
  split <;> rfl

theorem contents_write_of_eq_error {data : Assoc Text Json} {f : Fault}
    (h : s.write path data = (.error f, s')) : s'.contents = s.contents := by
  rw [write] at h
  split at h
  · cases h
    rfl
  · split at h
    · split at h
      · cases h
        rfl
      · cases h
    · cases h

end Server

namespace Connection

variable {c c' : Connection} {path key : Text} {v : Json}

/-- The connection apart from the requests that its server has received. -/
def contents (c : Connection) : Connection := { c with server := c.server.contents }

theorem contents_data? (c : Connection) (path : Text) : (c.data? path).2.contents = c.contents := by
  have hread := c.server.contents_read path
  rcases hanswer : c.server.read path with ⟨f | response, s⟩
  · rw [hanswer] at hread
    simp only [data?, hanswer]
    split <;> exact congrArg (Connection.mk · c.fresh) hread
  · rw [hanswer] at hread
    simp only [data?, hanswer]
    exact congrArg (Connection.mk · c.fresh) hread

theorem contents_writeKey_of_eq_error {f : WriteFault}
    (h : c.writeKey path key v = (.error f, c')) : c'.contents = c.contents := by
  rw [← contents_data? c path]
  rcases hdata : c.data? path with ⟨f' | data, c₁⟩
  · simp only [writeKey, hdata] at h
    cases h
    rfl
  · rcases hwrite : c₁.server.write path (body c₁.fresh data key v) with ⟨f' | _, s⟩
    · simp only [writeKey, hdata, hwrite] at h
      cases h
      exact congrArg (Connection.mk · c₁.fresh) (Server.contents_write_of_eq_error hwrite)
    · simp only [writeKey, hdata, hwrite] at h
      cases h

end Connection

namespace Client

/-- The client apart from the requests that have been received. -/
def contents : Client → Client
  | memory store _ => memory store []
  | remote c => remote c.contents

/-- **What is not taken leaves the contents as they are.** -/
theorem contents_write_of_eq_error {c c' : Client} {path key : Text} {v : Json} {f : Failure}
    (h : c.write path key v = (.error f, c')) : c'.contents = c.contents := by
  cases c with
  | memory store received => cases h
  | remote c =>
      rcases hwrite : c.writeKey path key v with ⟨f' | _, c₁⟩
      · simp only [write, hwrite] at h
        cases h
        exact congrArg remote (Connection.contents_writeKey_of_eq_error hwrite)
      · simp only [write, hwrite] at h
        cases h

/-- Writes an entry. -/
def writeEntry (d : Entry) (c : Client) : Except Failure Unit × Client :=
  c.write d.path d.key (.text d.value)

/-- Writes entries one after the other, as long as they are taken. -/
def writeAll : List Entry → Client → Except Failure Unit × Client
  | [], c => (.ok (), c)
  | d :: ds, c =>
      match c.writeEntry d with
      | (.error f, c) => (.error f, c)
      | (.ok (), c) => writeAll ds c

end Client

/-- Keeping what has three parts writes its entry. -/
theorem keep_of_length_split {p : Text} (hp : (p.split '#').length = 3) (c : Client) :
    keep p c = ((c.writeEntry (Entry.ofPayload p)).1.map fun _ => (Entry.ofPayload p).location,
      (c.writeEntry (Entry.ofPayload p)).2) := by
  have hparts : parts 3 p = .ok (p.split '#') := by simp [parts, hp]
  rw [keep, hparts]
  simp only [Client.writeEntry, Entry.ofPayload, Entry.location]
  rcases c.write ((p.split '#').getD 0 []) ((p.split '#').getD 1 [])
    (.text ((p.split '#').getD 2 [])) with ⟨_ | _, c'⟩ <;> rfl

end Vault

/-! ### Redacting with a vault -/

/-- The spans of a shape fit the text and stand in order. -/
theorem Shape.fits_spans (s : Shape) (t : Text) :
    (∀ k ∈ s.spans t, k.Fits t) ∧ (s.spans t).Pairwise Span.Precedes := by
  obtain ⟨ps, rfl, hps⟩ := Piece.exists_reads s.lawful none t
  obtain ⟨hfits, hord⟩ := Piece.fits_spansFrom (List.nil_append (Piece.text ps)).symm
  rw [Shape.spans_text hps]
  exact ⟨fun k hk => (hfits k hk).1, hord⟩

namespace Family

open Splicing Vault

variable {w w' : World} {t : Text}

theorem keeping_of_length_split {p : Text} (hp : (p.split '#').length = 3) (w : World) :
    keeping p w = (((w.vault.writeEntry (Entry.ofPayload p)).1.map
        fun _ => (Entry.ofPayload p).location).mapError .vault,
      { w with vault := (w.vault.writeEntry (Entry.ofPayload p)).2 }) := by
  simp only [keeping, keep_of_length_split hp]

/-- Where all declarations are kept, their entries are written. -/
theorem writeAll_of_transformAll_keeping {ps rs : List Text}
    (hps : ∀ p ∈ ps, (p.split '#').length = 3)
    (h : transformAll keeping ps w = (.ok rs, w')) :
    w.vault.writeAll (ps.map Entry.ofPayload) = (.ok (), w'.vault) := by
  induction ps generalizing w rs with
  | nil =>
      cases h
      rfl
  | cons p ps ih =>
      obtain ⟨r, w₁, rs', hp, hall, rfl⟩ := transformAll_cons_eq_ok_iff.1 h
      obtain ⟨hlen, hps⟩ := List.forall_mem_cons.1 hps
      rw [keeping_of_length_split hlen] at hp
      rw [List.map_cons, Client.writeAll]
      rcases hwrite : w.vault.writeEntry (Entry.ofPayload p) with ⟨f | _, c⟩
      · rw [hwrite] at hp
        cases hp
      · rw [hwrite] at hp
        cases hp
        exact ih hps hall

/-- **When redacting with a vault fails,** the vault does not take a declaration.  The entries of
the declarations behind it have been written, and its contents are what that makes of them. -/
theorem exists_abortsAt_keeping {e : Engine World Cause} (he : vault.engine? .redact = some e)
    {wrapTokens : Bool} {f : Engine.Failure Cause} (h : e.run wrapTokens t w = (.error f, w')) :
    ∃ front k back c client, Shape.declaration.spans t = front ++ k :: back ∧
      e.AbortsAt wrapTokens t w k back (.vault c) w' ∧
      w.vault.writeAll (back.map fun k => Entry.ofPayload (k.payload t)).reverse =
        (.ok (), client) ∧
      client.writeEntry (Entry.ofPayload (k.payload t)) = (.error c, w'.vault) ∧
      w'.vault.contents = client.contents := by
  obtain ⟨hlocate, htransform, hwrapper⟩ : e.locate t = .ok (Shape.declaration.spans t) ∧
      e.transform = keeping ∧ e.wrapper.isSome := by
    cases he
    exact ⟨rfl, rfl, rfl⟩
  obtain ⟨hfits, hord⟩ := Shape.declaration.fits_spans t
  have hlen : ∀ k ∈ Shape.declaration.spans t, ((k.payload t).split '#').length = 3 := fun k hk =>
    ((Reference.allLocated_scan ⟨declarationMarker, 2⟩ t).parts_payload k hk).1
  rcases hall : transformAll e.transform
      ((Shape.declaration.spans t).map (Span.payload · t)).reverse w with ⟨c | rs, w₁⟩
  · obtain ⟨front, k, back, hks, hk⟩ := Engine.exists_abortsAt wrapTokens (fun _ => hwrapper)
      hlocate hfits hord hall
    obtain ⟨rs, w₂, hback, hfail⟩ := hk.transformed
    obtain ⟨-, rfl⟩ := Prod.mk.inj (hk.run_eq.symm.trans h)
    rw [hks] at hlen
    obtain ⟨-, hlen⟩ := List.forall_mem_append.1 hlen
    obtain ⟨hlenk, hlenback⟩ := List.forall_mem_cons.1 hlen
    -- the declarations behind `k` are written, and then the one at `k` is not taken
    rw [htransform] at hback hfail
    have hwritten := writeAll_of_transformAll_keeping (fun p hp => by
      obtain ⟨l, hl, rfl⟩ := List.mem_map.1 (List.mem_reverse.1 hp)
      exact hlenback l hl) hback
    rw [List.map_reverse, List.map_map] at hwritten
    rw [keeping_of_length_split hlenk] at hfail
    rcases hwrite : w₂.vault.writeEntry (Entry.ofPayload (k.payload t)) with ⟨c' | _, client⟩
    · rw [hwrite] at hfail
      cases hfail
      exact ⟨front, k, back, c', w₂.vault, hks, hk, hwritten, hwrite,
        Client.contents_write_of_eq_error hwrite⟩
    · rw [hwrite] at hfail
      cases hfail
  · -- otherwise redacting would not fail
    obtain ⟨place, hplace⟩ := Engine.exists_placing? (e := e) (fun _ => hwrapper) wrapTokens
    rw [← List.reverse_reverse rs] at hall
    rw [Engine.run_eq_of_placing? hplace hlocate hfits hord hall] at h
    cases h

end Family

/-! ### Engines that fail -/

namespace Engine

open Splicing Vault

/-- **A failing token aborts the operation.**  At spans that fit the text and stand in order, where
the transformation fails for a payload of the text when it is called for one after the other, from
the last one on, the engine fails there: it yields no text, names that token as it is in the text
that was given, and makes no other calls than for the tokens behind it and for itself.  When this
happens to a redaction with a vault, the entries of the declarations behind that token have been
written, and nothing else has. -/
theorem aborts_of_failing :
    (∀ {σ ε : Type} (e : Engine σ ε) (wrapTokens : Bool) (t : Text) (ks : List Span) (c : ε)
        (s s' : σ),
      (e.action = .encode ∨ e.action = .redact → e.wrapper.isSome) →
      e.locate t = .ok ks → (∀ k ∈ ks, k.Fits t) → ks.Pairwise Span.Precedes →
      transformAll e.transform (ks.map (Span.payload · t)).reverse s = (.error c, s') →
      ∃ front k back, ks = front ++ k :: back ∧ e.AbortsAt wrapTokens t s k back c s') ∧
    ∀ (e : Engine World Cause) (wrapTokens : Bool) (t : Text) (f : Failure Cause) (w w' : World),
      Family.vault.engine? .redact = some e → e.run wrapTokens t w = (.error f, w') →
      ∃ front k back c client, Shape.declaration.spans t = front ++ k :: back ∧
        e.AbortsAt wrapTokens t w k back (.vault c) w' ∧
        w.vault.writeAll (back.map fun k => Entry.ofPayload (k.payload t)).reverse =
          (.ok (), client) ∧
        client.writeEntry (Entry.ofPayload (k.payload t)) = (.error c, w'.vault) ∧
        w'.vault.contents = client.contents :=
  ⟨fun _ wrapTokens _ _ _ _ _ hwrapper hlocate hfits hord hall =>
      exists_abortsAt wrapTokens hwrapper hlocate hfits hord hall,
    fun _ _ _ _ _ _ he h => Family.exists_abortsAt_keeping he h⟩

/-- An engine for tokens at given spans that hands out the texts it has left, whatever the payload,
and fails when none is left. -/
def dispensing (action : Action) (ks : List Span) : Engine (List Text) Unit where
  action := action
  family := "secret".toList
  locate := fun _ => .ok ks
  transform := fun _ s => match s with
    | [] => (.error (), [])
    | r :: s => (.ok r, s)
  wrapper := some fun token payload envelope =>
    '<' :: token ++ '|' :: payload ++ '|' :: envelope ++ ['>']

/-- A vault on a server that refuses to write one path. -/
def refusing : World where
  entropy := ⟨fun _ n => Vector.replicate n 0, 0⟩
  vault := .remote
    { server := { writeFaults := [("q".toList, ⟨.service .forbidden, "no".toList, none, none⟩)] } }

/-- Declarations for three paths, of which the second one is refused. -/
def refused : Text := "vault-secret:p#k#a vault-secret:q#k#b, vault-secret:r#k#c".toList

theorem aborts_of_failing_refused :
    (∃ front k back, touching = front ++ k :: back ∧
      (dispensing .redact touching).AbortsAt false "abcd".toList ["x".toList] k back () []) ∧
    ∃ e f w', Family.vault.engine? .redact = some e ∧
      e.run false refused refusing = (.error f, w') ∧
      ∃ front k back c client, Shape.declaration.spans refused = front ++ k :: back ∧
        e.AbortsAt false refused refusing k back (.vault c) w' ∧
        refusing.vault.writeAll (back.map fun k => Entry.ofPayload (k.payload refused)).reverse =
          (.ok (), client) ∧
        client.writeEntry (Entry.ofPayload (k.payload refused)) = (.error c, w'.vault) ∧
        w'.vault.contents = client.contents := by
  constructor
  · exact aborts_of_failing.1 (dispensing .redact touching) false "abcd".toList touching ()
      ["x".toList] [] (fun _ => rfl) rfl (by decide) (by decide) rfl
  · obtain ⟨e, he, hfails⟩ : ∃ e, Family.vault.engine? .redact = some e ∧
        (e.run false refused refusing).1.toOption = none :=
      ⟨_, rfl, by decide +kernel⟩
    rcases h : e.run false refused refusing with ⟨f | r, w'⟩
    · exact ⟨e, f, w', he, h, aborts_of_failing.2 e false refused f refusing w' he h⟩
    · rw [h] at hfails
      cases hfails

/-- Where an empty envelope is listed behind one that begins at the same place, the engine does not
name the token that failed by its payload in the text. -/
theorem not_abortsAt_dispensing :
    (∀ k ∈ [(⟨1, 1, 3, 3⟩ : Span), ⟨1, 1, 1, 1⟩], k.Fits "abcd".toList) ∧
    [(⟨1, 1, 3, 3⟩ : Span), ⟨1, 1, 1, 1⟩].Pairwise (·.envelopeStart ≤ ·.envelopeStart) ∧
    [(⟨1, 1, 3, 3⟩ : Span), ⟨1, 1, 1, 1⟩].Pairwise Span.Disjoint ∧
    transformAll (dispensing .redact [⟨1, 1, 3, 3⟩, ⟨1, 1, 1, 1⟩]).transform
      [[], "bc".toList] ["x".toList] = (.error (), []) ∧
    ∀ k ∈ [(⟨1, 1, 3, 3⟩ : Span), ⟨1, 1, 1, 1⟩], ∀ back c s',
      ¬(dispensing .redact [⟨1, 1, 3, 3⟩, ⟨1, 1, 1, 1⟩]).AbortsAt false "abcd".toList ["x".toList] k
        back c s' := by
  refine ⟨by decide, by decide, by decide, rfl, fun k hk back c s' h => ?_⟩
  have hrun : ((dispensing .redact [⟨1, 1, 3, 3⟩, ⟨1, 1, 1, 1⟩]).run false "abcd".toList
      ["x".toList]).1 = .error (.transforming .redact "secret".toList "<x".toList 1 ()) := rfl
  rw [h.run_eq] at hrun
  injection hrun with hfailure
  injection hfailure with _ _ hpayload
  clear h
  revert k
  decide

end Engine

end InlineSecrets
