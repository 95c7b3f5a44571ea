import Keystroke.Session

namespace Keystroke

@[simp] theorem ok_bind {ε α β : Type} (a : α) (f : α → Except ε β) :
    (Except.ok a >>= f) = f a := rfl

@[simp] theorem pure_eq_ok {ε α : Type} (a : α) : (pure a : Except ε α) = .ok a := rfl

/-- Steps that never fail and keep a property of the state do so one after another. -/
theorem foldlM_ok {ε σ α : Type} {P : σ → Prop} {step : σ → α → Except ε σ}
    (hstep : ∀ s a, P s → ∃ s', step s a = .ok s' ∧ P s') (steps : List α) {s : σ} (hs : P s) :
    ∃ s', steps.foldlM step s = .ok s' ∧ P s' := by
  induction steps generalizing s with
  | nil => exact ⟨s, rfl, hs⟩
  | cons a steps ih =>
    obtain ⟨next, hn, hnext⟩ := hstep s a hs
    rw [List.foldlM_cons, hn, ok_bind]
    exact ih hnext

namespace Text

/-- The offset is at most the length of the text and inside none of its characters. -/
def IsBoundary (t : Text) (offset : Nat) : Prop :=
  ∃ before after, t = before ++ after ∧ width before = offset

theorem isBoundary_width (before after : Text) : IsBoundary (before ++ after) (width before) :=
  ⟨before, after, rfl, rfl⟩

theorem IsBoundary.le_width {t : Text} {offset : Nat} (h : IsBoundary t offset) :
    offset ≤ width t := by
  obtain ⟨before, after, rfl, rfl⟩ := h
  simp

/-- Exactly the boundaries are the offsets at which a text can be split. -/
theorem isBoundary_iff_splitAt {t : Text} {offset : Nat} :
    IsBoundary t offset ↔ ∃ parts, splitAt t offset = .ok parts := by
  constructor
  · rintro ⟨before, after, rfl, rfl⟩
    exact ⟨_, splitAt_width before after⟩
  · rintro ⟨⟨before, after⟩, h⟩
    obtain ⟨ht, hw⟩ := splitAt_eq_ok h
    exact ⟨before, after, ht, hw⟩

theorem splice_append (before removed after replacement : Text) :
    splice (before ++ (removed ++ after)) (width before) (width removed) replacement =
      before ++ replacement ++ after := by
  simp [splice]

end Text

namespace Command

/-- The command takes a text with the caret between `before` and `after` to one with the caret
between `before'` and `after'`. Its range starts and ends between characters, and a host that
places the caret itself comes to the same place. -/
structure Leads (c : Command) (before after before' after' : Text) : Prop where
  start : Text.IsBoundary (before ++ after) c.offset
  stop : Text.IsBoundary (before ++ after) (c.offset + c.length)
  text : c.apply (before ++ after) = before' ++ after'
  caret : c.caretAfter = Text.width before'
  shifted : c.shiftsCaret = true → c.caret = c.offset + Text.width c.text

/-- A text around the caret is replaced, and the caret comes to stand inside the new one. -/
theorem leads_replace (c : Command) (kept removed rest front back : Text) {before after : Text}
    (hparts : before ++ after = kept ++ (removed ++ rest))
    (hoffset : c.offset = Text.width kept) (hlength : c.length = Text.width removed)
    (htext : c.text = front ++ back) (hcaret : c.caretAfter = Text.width (kept ++ front))
    (hshifted : c.shiftsCaret = true → c.caret = c.offset + Text.width c.text) :
    c.Leads before after (kept ++ front) (back ++ rest) where
  start := by
    rw [hparts, hoffset]
    exact Text.isBoundary_width kept _
  stop := by
    rw [hparts, hoffset, hlength, ← Text.width_append, ← List.append_assoc]
    exact Text.isBoundary_width _ rest
  text := by
    rw [apply, hparts, hoffset, hlength, htext, Text.splice_append]
    simp
  caret := hcaret
  shifted := hshifted

theorem leads_insertAround (before after front back : Text) :
    (insertAround (Text.width before) (front ++ back) (Text.width front)).Leads before after
      (before ++ front) (back ++ after) :=
  leads_replace _ before [] after front back rfl rfl rfl rfl (by simp [caretAfter, insertAround])
    (by simp [insertAround])

theorem leads_insert (before after t : Text) :
    (insert (Text.width before) t).Leads before after (before ++ t) after :=
  leads_replace _ before [] after t [] rfl rfl rfl (by simp [insert])
    (by simp [caretAfter, insert]) (fun _ => rfl)

theorem leads_stepOver (before typed after : Text) :
    (insertAround (Text.width before) [] (Text.width typed)).Leads before (typed ++ after)
      (before ++ typed) after where
  start := Text.isBoundary_width before _
  stop := Text.isBoundary_width before _
  text := by
    have h := Text.splice_append before [] (typed ++ after) []
    simpa [apply, insertAround] using h
  caret := by simp [caretAfter, insertAround]
  shifted := by simp [insertAround]

def delete (offset length : Nat) (shiftsCaret : Bool) : Command :=
  ⟨offset, length, [], offset, shiftsCaret⟩

theorem leads_delete (kept opening closing rest : Text) (shiftsCaret : Bool) :
    (delete (Text.width kept) (Text.width (opening ++ closing)) shiftsCaret).Leads
      (kept ++ opening) (closing ++ rest) kept rest := by
  have hparts : kept ++ opening ++ (closing ++ rest) = kept ++ (opening ++ closing ++ rest) := by
    simp
  have hcaret : (delete (Text.width kept) (Text.width (opening ++ closing)) shiftsCaret).caretAfter =
      Text.width (kept ++ []) := by
    cases shiftsCaret <;> simp [caretAfter, delete]
  have h := leads_replace _ kept (opening ++ closing) rest [] [] hparts rfl rfl rfl hcaret
    (by simp [delete])
  simpa using h

end Command

/-- An assistant that closes the standard pairs and knows no Enter rules. -/
def Assistant.brackets : Assistant where
  enter := ⟨[], []⟩
  pairs := ⟨BracketPair.standard.map (⟨·, []⟩), ClosingPairs.standardCloseBefore⟩

namespace Session

structure At (s : Session) (before after : Text) : Prop where
  text : s.text = before ++ after
  caret : s.caret = Text.width before

/-- The caret is at most the length of the text and inside none of its characters. -/
def CaretValid (s : Session) : Prop :=
  Text.IsBoundary s.text s.caret

theorem At.caretValid {s : Session} {before after : Text} (h : s.At before after) :
    s.CaretValid :=
  ⟨before, after, h.text, h.caret.symm⟩

theorem CaretValid.exists_at {s : Session} (h : s.CaretValid) :
    ∃ before after, s.At before after := by
  obtain ⟨before, after, ht, hw⟩ := h
  exact ⟨before, after, ht, hw.symm⟩

def between (a : Assistant) (before after : Text) : Session :=
  ⟨a, IndentSettings.standard, fun _ => none, before ++ after, Text.width before⟩

theorem at_between (a : Assistant) (before after : Text) : (between a before after).At before after :=
  ⟨rfl, rfl⟩

theorem At.apply {s : Session} {c : Command} {before after before' after' : Text}
    (hs : s.At before after) (hc : c.Leads before after before' after') :
    (s.apply c).At before' after' where
  text := by
    rw [Session.apply, hs.text]
    exact hc.text
  caret := hc.caret

end Session

end Keystroke
