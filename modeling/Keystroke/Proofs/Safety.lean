import Keystroke.Proofs.Answer

namespace Keystroke

/-- A command that a host can apply to a text: it replaces whole characters, leaves the caret
between characters, and names the caret that the host would compute. -/
structure Command.Safe (c : Command) (t : Text) : Prop where
  start : Text.IsBoundary t c.offset
  stop : Text.IsBoundary t (c.offset + c.length)
  inside : c.offset + c.length ≤ Text.width t
  caret : Text.IsBoundary (c.apply t) c.caretAfter
  shifted : c.shiftsCaret = true → c.caret = c.offset + Text.width c.text

theorem Command.Leads.safe {c : Command} {before after before' after' : Text}
    (h : c.Leads before after before' after') : c.Safe (before ++ after) where
  start := h.start
  stop := h.stop
  inside := h.stop.le_width
  caret := by
    rw [h.text, h.caret]
    exact Text.isBoundary_width before' after'
  shifted := h.shifted

namespace Session

inductive Event where
  | key (typed : Text)
  | backspace
  /-- Another configuration, with the assistant that it sets up. -/
  | assist (assistant : Assistant)
  | indentWith (settings : IndentSettings)
  | tokenize (tokens : TokenSource)

/-- The command that answers an event, if the event asks for one. -/
def answer (s : Session) : Event → Except OffsetError (Option Command)
  | .key typed => do
    return some (← s.assistant.customize s.text s.caret typed s.settings s.tokens).value
  | .backspace => do return (← s.assistant.backspace s.text s.caret).value
  | .assist _ | .indentWith _ | .tokenize _ => return none

def receive (s : Session) : Event → Except OffsetError Session
  | .key typed => do return (← s.press typed).value
  | .backspace => do return (← s.erase).value
  | .assist assistant => return { s with assistant }
  | .indentWith settings => return { s with settings }
  | .tokenize tokens => return { s with tokens }

theorem receive_key {s : Session} {typed : Text} {a : Logged Command}
    (h : s.assistant.customize s.text s.caret typed s.settings s.tokens = .ok a) :
    s.receive (.key typed) = .ok (s.apply a.value) := by
  simp only [receive, press, h]
  rfl

theorem answer_backspace {s : Session} {a : Logged (Option Command)} {c : Command}
    (h : s.assistant.backspace s.text s.caret = .ok a) (hc : a.value = some c) :
    s.answer .backspace = .ok (some c) := by
  simp only [answer, h, ← hc]
  rfl

theorem receive_backspace {s : Session} {a : Logged (Option Command)} {c : Command}
    (h : s.assistant.backspace s.text s.caret = .ok a) (hc : a.value = some c) :
    s.receive .backspace = .ok (s.apply c) := by
  simp only [receive, erase, h, ok_bind, pure_eq_ok, Logged.value_bind, hc, Logged.value_pure]

theorem receive_backspace_none {s : Session} {a : Logged (Option Command)}
    (h : s.assistant.backspace s.text s.caret = .ok a) (hnone : a.value = none) :
    s.answer .backspace = .ok none ∧ s.receive .backspace = .ok s := by
  constructor
  · simp only [answer, h, ← hnone]
    rfl
  · simp only [receive, erase, h, ok_bind, pure_eq_ok, Logged.value_bind, hnone,
      Logged.value_pure]

/-- At a valid caret every event is received, and its command, if any, is what is applied. -/
theorem receive_at {s : Session} {before after : Text} (hs : s.At before after) (e : Event) :
    ∃ answer next, s.answer e = .ok answer ∧ s.receive e = .ok next ∧ next.CaretValid ∧
      ∀ c ∈ answer, c.Safe s.text ∧ next = s.apply c := by
  rw [hs.text]
  cases e with
  | key typed =>
    obtain ⟨a, before', after', ha, _, hl, _⟩ :=
      s.assistant.customize_leads s.settings s.tokens before typed after
    rw [← hs.text, ← hs.caret] at ha
    refine ⟨some a.value, s.apply a.value, ?_, ?_, (hs.apply hl).caretValid, ?_⟩
    · simp only [answer, ha]
      rfl
    · exact receive_key ha
    · intro c hc
      cases Option.mem_some.mp hc
      exact ⟨hl.safe, rfl⟩
  | backspace =>
    obtain ⟨a, ha, h⟩ := s.assistant.backspace_erases before after
    rw [← hs.text, ← hs.caret] at ha
    rcases h with ⟨_, hn⟩ | ⟨c, kept, rest, hc, hl, _⟩
    · obtain ⟨hanswer, hreceive⟩ := receive_backspace_none ha hn
      exact ⟨none, s, hanswer, hreceive, hs.caretValid, by simp⟩
    · refine ⟨some c, s.apply c, ?_, ?_, (hs.apply hl).caretValid, ?_⟩
      · exact answer_backspace ha hc
      · exact receive_backspace ha hc
      · intro c' hc'
        cases Option.mem_some.mp hc'
        exact ⟨hl.safe, rfl⟩
  | assist assistant => exact ⟨none, { s with assistant }, rfl, rfl, hs.caretValid, by simp⟩
  | indentWith settings => exact ⟨none, { s with settings }, rfl, rfl, hs.caretValid, by simp⟩
  | tokenize tokens => exact ⟨none, { s with tokens }, rfl, rfl, hs.caretValid, by simp⟩

/-- Any events keep the caret of a session valid. -/
theorem receiveAll_caretValid {s : Session} (hs : s.CaretValid) (events : List Event) :
    ∃ s', events.foldlM receive s = .ok s' ∧ s'.CaretValid := by
  apply foldlM_ok _ events hs
  intro s e hs
  obtain ⟨before, after, hat⟩ := hs.exists_at
  obtain ⟨_, next, _, hn, hv, _⟩ := receive_at hat e
  exact ⟨next, hn, hv⟩

/-- However a session got where it is, it answers whatever comes next without failing, by a safe
command if by any, and the host's session after that has a valid caret again. -/
theorem receive_safe (s : Session) (hs : s.CaretValid) (events : List Event) :
    ∃ s', events.foldlM receive s = .ok s' ∧ s'.CaretValid ∧
      ∀ e, ∃ answer next, s'.answer e = .ok answer ∧ s'.receive e = .ok next ∧
        next.CaretValid ∧ ∀ c ∈ answer, c.Safe s'.text ∧ next = s'.apply c := by
  obtain ⟨s', hr, hs'⟩ := receiveAll_caretValid hs events
  obtain ⟨before, after, hat⟩ := hs'.exists_at
  exact ⟨s', hr, hs', receive_at hat⟩

theorem receive_safe_brackets :
    (between .brackets ['é'] [';']).CaretValid ∧
      ∃ s', [.key ['('], .backspace, .key ['\n']].foldlM receive
        (between .brackets ['é'] [';']) = .ok s' ∧ s'.CaretValid := by
  have hs := (at_between .brackets ['é'] [';']).caretValid
  obtain ⟨s', hr, hs', _⟩ := receive_safe _ hs [.key ['('], .backspace, .key ['\n']]
  exact ⟨hs, s', hr, hs'⟩

end Session

end Keystroke
