import Keystroke.Proofs.Answer

namespace Keystroke

/-- A keystroke, with the settings and the tokens at its time. -/
structure Stroke where
  typed : Text
  settings : IndentSettings
  tokens : TokenSource

def Stroke.IsText (k : Stroke) : Prop :=
  k.typed ≠ [] ∧ isLineDelimiter k.typed = false

/-- What may stand after the caret once a text is typed: the same as before, this with the closing
text of the first pair that was opened in front, or this without the typed text. -/
def ClosingPairs.Follows (e : ClosingPairs) (before typed after after' : Text) : Prop :=
  after' = after ∨ (∃ p, e.opened? before typed = some p ∧ after' = p.closing ++ after) ∨
    after = typed ++ after'

theorem ClosingPairs.follows_afterTyping (e : ClosingPairs) (tokens : TokenSource)
    (before typed after : Text) :
    e.Follows before typed after (e.afterTyping tokens before typed after) := by
  unfold afterTyping
  rcases e.decision_cases tokens before typed after with h | ⟨h, hpre⟩ | ⟨p, hp, h⟩
  · rw [h]
    exact Or.inl rfl
  · obtain ⟨rest, rfl⟩ := hpre
    rw [h]
    exact Or.inr (Or.inr (by simp))
  · rw [h]
    exact Or.inr (Or.inl ⟨p, hp, rfl⟩)

namespace Session

def under (s : Session) (k : Stroke) : Session :=
  { s with settings := k.settings, tokens := k.tokens }

theorem At.under {s : Session} {before after : Text} (hs : s.At before after) (k : Stroke) :
    (s.under k).At before after :=
  ⟨hs.text, hs.caret⟩

def strike (s : Session) (k : Stroke) : Except OffsetError Session := do
  return (← (s.under k).press k.typed).value

theorem strike_eq {s : Session} {k : Stroke} {answer : Logged Command}
    (h : s.assistant.customize s.text s.caret k.typed k.settings k.tokens = .ok answer) :
    s.strike k = .ok ((s.under k).apply answer.value) := by
  simp only [strike, press, under, h]
  rfl

/-- A text that is typed comes to stand before the caret. -/
theorem strike_text {s : Session} {before after : Text} (hs : s.At before after) {k : Stroke}
    (hk : isLineDelimiter k.typed = false) :
    ∃ next, s.strike k = .ok next ∧ next.assistant = s.assistant ∧
      next.At (before ++ k.typed)
        (s.assistant.pairs.afterTyping k.tokens before k.typed after) := by
  obtain ⟨notices, ha⟩ :=
    s.assistant.customize_typed k.settings k.tokens before k.typed after hk
  rw [← hs.text, ← hs.caret] at ha
  have hl := Assistant.typedCommand_leads s.assistant.pairs k.tokens before k.typed after
  rw [← hs.caret] at hl
  exact ⟨_, strike_eq ha, rfl, (hs.under k).apply hl⟩

/-- Any keystroke only adds to the text. -/
theorem strike_adds {s : Session} (hs : s.CaretValid) (k : Stroke) :
    ∃ answer next,
      s.assistant.customize s.text s.caret k.typed k.settings k.tokens = .ok answer ∧
        answer.value.length = 0 ∧ s.strike k = .ok next ∧ next.CaretValid ∧
        s.text.Sublist next.text := by
  obtain ⟨before, after, hat⟩ := hs.exists_at
  obtain ⟨answer, before', after', ha, hlength, hl, hsub⟩ :=
    s.assistant.customize_leads k.settings k.tokens before k.typed after
  rw [← hat.text, ← hat.caret] at ha
  have hnext := (hat.under k).apply hl
  refine ⟨answer, _, ha, hlength, strike_eq ha, hnext.caretValid, ?_⟩
  rw [hnext.text, hat.text]
  exact hsub

theorem strikes_text {s : Session} {before after : Text} (hs : s.At before after)
    {strokes : List Stroke} (ht : ∀ k ∈ strokes, k.IsText) :
    ∃ s' after', strokes.foldlM strike s = .ok s' ∧ s'.assistant = s.assistant ∧
      s'.At (before ++ strokes.flatMap Stroke.typed) after' := by
  induction strokes generalizing s before after with
  | nil => exact ⟨s, after, rfl, rfl, by simpa using hs⟩
  | cons k strokes ih =>
    obtain ⟨next, hn, ha, hat⟩ := strike_text hs (ht k (by simp)).2
    obtain ⟨s', after', hr, ha', hat'⟩ := ih hat (fun k' hk' => ht k' (by simp [hk']))
    refine ⟨s', after', ?_, ha'.trans ha, by simpa using hat'⟩
    simpa only [List.foldlM_cons, hn, ok_bind] using hr

theorem strikes_add {s : Session} (hs : s.CaretValid) (strokes : List Stroke) :
    ∃ s', strokes.foldlM strike s = .ok s' ∧ s'.CaretValid ∧ s.text.Sublist s'.text := by
  have hstep : ∀ (s' : Session) (k : Stroke), s'.CaretValid ∧ s.text.Sublist s'.text →
      ∃ next, s'.strike k = .ok next ∧ next.CaretValid ∧ s.text.Sublist next.text := by
    rintro s' k ⟨hv, hsub⟩
    obtain ⟨_, next, _, _, hn, hv', hsub'⟩ := strike_adds hv k
    exact ⟨next, hn, hv', hsub.trans hsub'⟩
  exact foldlM_ok hstep strokes ⟨hs, List.Sublist.refl _⟩

/-- After any typed texts the text before the caret has grown by exactly these, and the next one
changes what follows the caret only as `ClosingPairs.Follows` says. With Enter among the keystrokes
it still holds that every command deletes nothing and the first text is kept in the last. -/
theorem typed_before_caret (s : Session) (before after : Text) (hs : s.At before after) :
    (∀ strokes : List Stroke, (∀ k ∈ strokes, k.IsText) →
      ∃ s' after', strokes.foldlM strike s = .ok s' ∧
        s'.At (before ++ strokes.flatMap Stroke.typed) after' ∧
        ∀ k : Stroke, k.IsText →
          ∃ next after'', s'.strike k = .ok next ∧
            next.At (before ++ strokes.flatMap Stroke.typed ++ k.typed) after'' ∧
            s.assistant.pairs.Follows (before ++ strokes.flatMap Stroke.typed) k.typed after'
              after'') ∧
    ∀ strokes : List Stroke, ∃ s', strokes.foldlM strike s = .ok s' ∧ s.text.Sublist s'.text ∧
      ∀ k : Stroke, ∃ answer,
        s'.assistant.customize s'.text s'.caret k.typed k.settings k.tokens = .ok answer ∧
          answer.value.length = 0 := by
  constructor
  · intro strokes ht
    obtain ⟨s', after', hr, ha, hat⟩ := strikes_text hs ht
    refine ⟨s', after', hr, hat, ?_⟩
    intro k hk
    obtain ⟨next, hn, _, hat'⟩ := strike_text hat hk.2
    rw [ha] at hat'
    exact ⟨next, _, hn, hat', s.assistant.pairs.follows_afterTyping k.tokens _ k.typed after'⟩
  · intro strokes
    obtain ⟨s', hr, hv, hsub⟩ := strikes_add hs.caretValid strokes
    refine ⟨s', hr, hsub, ?_⟩
    intro k
    obtain ⟨answer, _, ha, hlength, _⟩ := strike_adds hv k
    exact ⟨answer, ha, hlength⟩

theorem typed_before_caret_brackets :
    ∃ s' after', [⟨['(', ')'], .standard, fun _ => none⟩, ⟨['('], .standard, fun _ => none⟩].foldlM
      strike (between .brackets ['é'] [')']) = .ok s' ∧ s'.At ['é', '(', ')', '('] after' := by
  have hs := at_between .brackets ['é'] [')']
  obtain ⟨s', after', hr, hat, _⟩ := (typed_before_caret _ _ _ hs).1
    [⟨['(', ')'], .standard, fun _ => none⟩, ⟨['('], .standard, fun _ => none⟩]
    (by simp [Stroke.IsText, isLineDelimiter])
  exact ⟨s', after', hr, hat⟩

end Session

end Keystroke
