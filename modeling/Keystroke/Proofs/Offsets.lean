import Keystroke.Proofs.Safety

namespace Keystroke

/-- Why an offset addresses no place between two characters of a text. -/
inductive Text.Misses (t : Text) (offset : Nat) : OffsetError → Prop
  | outOfBounds : width t < offset → Misses t offset (.outOfBounds offset (width t))
  | notCharBoundary : offset ≤ width t → ¬ IsBoundary t offset →
    Misses t offset (.notCharBoundary offset)

/-- The request fails if its offset misses the text, for that reason, and for no other. -/
def FailsByOffset {α : Type} (t : Text) (offset : Nat) (r : Except OffsetError α) : Prop :=
  ∀ e, r = .error e ↔ t.Misses offset e

section Misses

variable {t : Text} {offset : Nat} {e : OffsetError}

theorem Text.exists_misses_iff :
    (∃ e, t.Misses offset e) ↔ width t < offset ∨ ¬ IsBoundary t offset := by
  constructor
  · rintro ⟨_, hout | ⟨_, hinside⟩⟩
    · exact Or.inl hout
    · exact Or.inr hinside
  · intro h
    by_cases hout : width t < offset
    · exact ⟨_, .outOfBounds hout⟩
    · exact ⟨_, .notCharBoundary (Nat.le_of_not_lt hout) (h.resolve_left hout)⟩

theorem Text.Misses.splitAt (h : t.Misses offset e) : Text.splitAt t offset = .error e := by
  cases h with
  | outOfBounds hout => exact if_pos hout
  | notCharBoundary hle hinside =>
    have hcut : width (cut t offset).1 ≠ offset := by
      intro hw
      exact hinside ⟨_, _, (cut_append t offset).symm, hw⟩
    rw [Text.splitAt, if_neg (Nat.not_lt_of_le hle)]
    exact if_neg hcut

theorem Text.IsBoundary.not_misses (h : IsBoundary t offset) : ¬ t.Misses offset e := by
  intro hmisses
  obtain ⟨parts, hparts⟩ := isBoundary_iff_splitAt.mp h
  have hsplit := hmisses.splitAt
  rw [hparts] at hsplit
  cases hsplit

theorem failsByOffset_splitAt (t : Text) (offset : Nat) :
    FailsByOffset t offset (Text.splitAt t offset) := by
  intro e
  constructor
  · intro h
    have hb : ¬ Text.IsBoundary t offset := by
      intro hb
      obtain ⟨parts, hparts⟩ := Text.isBoundary_iff_splitAt.mp hb
      rw [h] at hparts
      cases hparts
    obtain ⟨e', he'⟩ := Text.exists_misses_iff.mpr (Or.inr hb)
    obtain rfl : e = e' := Except.error.inj (h.symm.trans he'.splitAt)
    exact he'
  · exact Text.Misses.splitAt

end Misses

namespace FailsByOffset

variable {α β : Type} {t : Text} {offset : Nat} {r : Except OffsetError α}

theorem isBoundary (h : FailsByOffset t offset r) {a : α} (ha : r = .ok a) :
    Text.IsBoundary t offset := by
  by_contra hb
  obtain ⟨e, he⟩ := Text.exists_misses_iff.mpr (Or.inr hb)
  have herror := (h e).mpr he
  rw [ha] at herror
  cases herror

theorem exists_ok (h : FailsByOffset t offset r) (hb : Text.IsBoundary t offset) :
    ∃ a, r = .ok a := by
  cases hr : r with
  | error e => exact absurd ((h e).mp hr) hb.not_misses
  | ok a => exact ⟨a, rfl⟩

/-- What goes on without failing once a request has passed, fails as the request does. -/
theorem bind {f : α → Except OffsetError β} (h : FailsByOffset t offset r)
    (hf : Text.IsBoundary t offset → ∀ a, ∃ b, f a = .ok b) : FailsByOffset t offset (r >>= f) := by
  intro e
  rw [← h e]
  cases hr : r with
  | error e' =>
    constructor
    · rintro ⟨⟩
      rfl
    · rintro ⟨⟩
      rfl
  | ok a =>
    obtain ⟨b, hb⟩ := hf (h.isBoundary hr) a
    rw [ok_bind, hb]
    constructor
    · rintro ⟨⟩
    · rintro ⟨⟩

end FailsByOffset

namespace Document

variable (d : Document) (offset : Nat)

theorem failsByOffset_rowOf : FailsByOffset d.text offset (d.rowOf offset) :=
  (failsByOffset_splitAt d.text offset).bind fun _ _ => ⟨_, rfl⟩

theorem failsByOffset_positionOf : FailsByOffset d.text offset (d.positionOf offset) :=
  (d.failsByOffset_rowOf offset).bind fun _ _ => ⟨_, rfl⟩

theorem failsByOffset_splitLineAt : FailsByOffset d.text offset (d.splitLineAt offset) :=
  (d.failsByOffset_rowOf offset).bind fun _ _ => ⟨_, rfl⟩

theorem failsByOffset_leadingIndentAt : FailsByOffset d.text offset (d.leadingIndentAt offset) :=
  (d.failsByOffset_splitLineAt offset).bind fun _ _ => ⟨_, rfl⟩

end Document

theorem EnterRules.failsByOffset_resolve (e : EnterRules) (d : Document) (offset : Nat) :
    FailsByOffset d.text offset (e.resolve d offset) := by
  refine (d.failsByOffset_rowOf offset).bind fun hb row => ?_
  obtain ⟨parts, hparts⟩ := Document.splitLineAt_ok hb
  rw [hparts]
  exact ⟨_, rfl⟩

namespace ClosingPairs

theorem failsByOffset_decide (e : ClosingPairs) (t : Text) (offset : Nat) (typed : Text)
    (tokens : TokenSource) : FailsByOffset t offset (e.decide t offset typed tokens) := by
  refine (failsByOffset_splitAt t offset).bind ?_
  rintro - ⟨before, after⟩
  by_cases htyped : typed = []
  · exact ⟨_, if_pos htyped⟩
  · cases hopened : e.opened? before typed with
    | some p => exact ⟨_, by simp only [if_neg htyped, hopened]; rfl⟩
    | none =>
      by_cases hsteps : e.stepsOver typed after = true
      · exact ⟨_, by simp only [if_neg htyped, hopened, if_pos hsteps]; rfl⟩
      · exact ⟨_, by simp only [if_neg htyped, hopened, if_neg hsteps]; rfl⟩

theorem failsByOffset_decideDelete (e : ClosingPairs) (t : Text) (offset : Nat) :
    FailsByOffset t offset (e.decideDelete t offset) := by
  refine (failsByOffset_splitAt t offset).bind ?_
  rintro - ⟨before, after⟩
  cases hfind : e.pairs.find? (·.surrounds before after) with
  | some p => exact ⟨_, by simp only [hfind]; rfl⟩
  | none => exact ⟨_, by simp only [hfind]; rfl⟩

end ClosingPairs

namespace Assistant

theorem failsByOffset_pressEnter (a : Assistant) (t : Text) (offset : Nat) (delimiter : Text)
    (s : IndentSettings) : FailsByOffset t offset (a.pressEnter t offset delimiter s) := by
  refine (a.enter.failsByOffset_resolve (Document.ofText t) offset).bind fun hb resolved => ?_
  -- The indentation is looked up at the same offset again, which has passed by now.
  obtain ⟨indentation, hindentation⟩ :=
    Document.leadingIndentAt_ok (d := Document.ofText t) hb
  rw [hindentation]
  exact ⟨_, rfl⟩

theorem failsByOffset_customize (a : Assistant) (t : Text) (offset : Nat) (typed : Text)
    (s : IndentSettings) (tokens : TokenSource) :
    FailsByOffset t offset (a.customize t offset typed s tokens) := by
  unfold customize
  split
  next => exact a.failsByOffset_pressEnter t offset typed s
  next =>
    exact (a.pairs.failsByOffset_decide t offset typed tokens).bind fun _ _ => ⟨_, rfl⟩

theorem failsByOffset_backspace (a : Assistant) (t : Text) (caret : Nat) :
    FailsByOffset t caret (a.backspace t caret) := by
  refine (failsByOffset_splitAt t caret).bind ?_
  rintro hb ⟨before, after⟩
  obtain ⟨decision, hdecision⟩ := (a.pairs.failsByOffset_decideDelete t caret).exists_ok hb
  rw [hdecision]
  cases hlast : before.getLast? with
  | none => exact ⟨_, by simp only [ok_bind, hlast]; rfl⟩
  | some c =>
    cases decision with
    | passThrough => exact ⟨_, by simp only [ok_bind, hlast]; rfl⟩
    | deletePair start length => exact ⟨_, by simp only [ok_bind, hlast]; rfl⟩

end Assistant

namespace Session

/-- What a user does at the caret. -/
inductive Request where
  | key (typed : Text)
  | backspace

namespace Request

def change : Request → Session → Except OffsetError (Logged Session)
  | key typed => fun s => s.press typed
  | backspace => erase

def event : Request → Event
  | key typed => .key typed
  | backspace => .backspace

end Request

theorem receive_event (s : Session) (q : Request) :
    s.receive q.event = do return (← q.change s).value := by
  cases q <;> rfl

theorem failsByOffset_change (s : Session) (q : Request) :
    FailsByOffset s.text s.caret (q.change s) := by
  cases q with
  | key typed =>
    exact (s.assistant.failsByOffset_customize s.text s.caret typed s.settings s.tokens).bind
      fun _ _ => ⟨_, rfl⟩
  | backspace =>
    exact (s.assistant.failsByOffset_backspace s.text s.caret).bind fun _ _ => ⟨_, rfl⟩

theorem change_ok {s : Session} (hs : s.CaretValid) (q : Request) :
    ∃ next, q.change s = .ok next ∧ s.receive q.event = .ok next.value ∧
      next.value.CaretValid := by
  obtain ⟨before, after, hat⟩ := hs.exists_at
  obtain ⟨next, hnext⟩ := (s.failsByOffset_change q).exists_ok hs
  have hreceive : s.receive q.event = .ok next.value := by
    rw [receive_event, hnext, ok_bind, pure_eq_ok]
  obtain ⟨_, received, _, hreceived, hvalid, _⟩ := receive_at hat q.event
  obtain rfl : received = next.value := Except.ok.inj (hreceived.symm.trans hreceive)
  exact ⟨next, hnext, hreceive, hvalid⟩

/-- From a valid caret all requests of a run are carried out. -/
theorem many_ok {s : Session} (hs : s.CaretValid) (requests : List Request) :
    ∃ s', (s.many (requests.map Request.change)).value = (s', none) ∧
      (requests.map Request.event).foldlM receive s = .ok s' ∧ s'.CaretValid := by
  induction requests generalizing s with
  | nil => exact ⟨s, rfl, rfl, hs⟩
  | cons q requests ih =>
    obtain ⟨next, hnext, hreceive, hvalid⟩ := change_ok hs q
    obtain ⟨s', hmany, hfold, hs'⟩ := ih hvalid
    refine ⟨s', ?_, ?_, hs'⟩
    · rw [List.map_cons, many, hnext]
      exact hmany
    · rw [List.map_cons, List.foldlM_cons, hreceive, ok_bind]
      exact hfold

/-- From a caret that is not valid the first request fails, and nothing is changed. -/
theorem many_error {s : Session} {e : OffsetError} (he : s.text.Misses s.caret e)
    {requests : List Request} (hne : requests ≠ []) :
    (s.many (requests.map Request.change)).value = (s, some (.offset e)) := by
  obtain ⟨q, rest, rfl⟩ := List.exists_cons_of_ne_nil hne
  have hfails : q.change s = .error e := (s.failsByOffset_change q e).mpr he
  rw [List.map_cons, many, hfails]
  rfl

end Session

/-- Whatever an assistant is set up from, each of its requests and of those of a document fails
exactly where the offset misses the text, and all of them fail for the same reason. A run of
keystrokes and backspaces either fails with the first one and changes nothing, or is carried out to
the end. -/
theorem Assistant.requests_fail_by_offset (a : Assistant) (t : Text) (offset : Nat) (typed : Text)
    (s : IndentSettings) (tokens : TokenSource) :
    let d := Document.ofText t
    let session : Session := ⟨a, s, tokens, t, offset⟩
    ((∃ e, t.Misses offset e) ↔ Text.width t < offset ∨ ¬ Text.IsBoundary t offset) ∧
      FailsByOffset t offset (a.customize t offset typed s tokens) ∧
      FailsByOffset t offset (a.backspace t offset) ∧
      FailsByOffset t offset (a.pairs.decide t offset typed tokens) ∧
      FailsByOffset t offset (a.pairs.decideDelete t offset) ∧
      FailsByOffset t offset (a.enter.resolve d offset) ∧
      FailsByOffset t offset (d.rowOf offset) ∧
      FailsByOffset t offset (d.positionOf offset) ∧
      FailsByOffset t offset (d.splitLineAt offset) ∧
      FailsByOffset t offset (d.leadingIndentAt offset) ∧
      ∀ requests : List Session.Request,
        (∀ e, t.Misses offset e → requests ≠ [] →
          (session.many (requests.map Session.Request.change)).value =
            (session, some (.offset e))) ∧
        (Text.IsBoundary t offset →
          ∃ s', (session.many (requests.map Session.Request.change)).value = (s', none) ∧
            (requests.map Session.Request.event).foldlM Session.receive session = .ok s') := by
  intro d session
  refine ⟨Text.exists_misses_iff, a.failsByOffset_customize t offset typed s tokens,
    a.failsByOffset_backspace t offset, a.pairs.failsByOffset_decide t offset typed tokens,
    a.pairs.failsByOffset_decideDelete t offset, a.enter.failsByOffset_resolve d offset,
    d.failsByOffset_rowOf offset, d.failsByOffset_positionOf offset,
    d.failsByOffset_splitLineAt offset, d.failsByOffset_leadingIndentAt offset,
    fun requests => ⟨fun e he hne => Session.many_error he hne, fun hb => ?_⟩⟩
  obtain ⟨s', hmany, hfold, -⟩ := Session.many_ok (s := session) hb requests
  exact ⟨s', hmany, hfold⟩

/-- A caret inside a character, and one behind it. -/
theorem Assistant.requests_fail_by_offset_accent :
    let requests := [Session.Request.key ['('], .backspace, .key ['\r', '\n']]
    let inside : Session := ⟨.brackets, .standard, fun _ => none, ['é'], 1⟩
    let behind : Session := ⟨.brackets, .standard, fun _ => none, ['é'], 2⟩
    (inside.many (requests.map Session.Request.change)).value =
        (inside, some (.offset (.notCharBoundary 1))) ∧
      ∃ s', (behind.many (requests.map Session.Request.change)).value = (s', none) := by
  intro requests inside behind
  have hmisses : Text.Misses ['é'] 1 (.notCharBoundary 1) := by
    refine .notCharBoundary (by decide) fun hb => ?_
    obtain ⟨parts, hparts⟩ := Text.isBoundary_iff_splitAt.mp hb
    cases hparts
  obtain ⟨-, -, -, -, -, -, -, -, -, -, hinside⟩ :=
    requests_fail_by_offset .brackets ['é'] 1 ['('] .standard fun _ => none
  obtain ⟨-, -, -, -, -, -, -, -, -, -, hbehind⟩ :=
    requests_fail_by_offset .brackets ['é'] 2 ['('] .standard fun _ => none
  obtain ⟨s', hmany, -⟩ := (hbehind requests).2 (Text.isBoundary_width ['é'] [])
  exact ⟨(hinside requests).1 _ hmisses (List.cons_ne_nil _ _), s', hmany⟩

end Keystroke
