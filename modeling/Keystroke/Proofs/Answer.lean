import Keystroke.Proofs.Caret
import Mathlib.Data.List.Basic

namespace Keystroke

/-- The texts of the pair stand on both sides of the caret. -/
def ClosingPair.Around (p : ClosingPair) (before after : Text) : Prop :=
  p.opening <:+ before ∧ p.closing <+: after

theorem ClosingPair.surrounds_iff {p : ClosingPair} {before after : Text} :
    p.surrounds before after = true ↔ p.Around before after := by
  simp only [surrounds, Around, Bool.and_eq_true, List.isSuffixOf_iff_suffix,
    List.isPrefixOf_iff_prefix]

namespace ClosingPairs

/-- What a backspace leaves before and after the caret: both parts without the texts of the first
pair around the caret, or if there is none, the first part without its last character. -/
inductive Erases (e : ClosingPairs) (before after : Text) : Text → Text → Prop
  | pair {front back : List ClosingPair} {p : ClosingPair} {kept rest : Text} :
    e.pairs = front ++ p :: back → (∀ q ∈ front, ¬ q.Around before after) →
      before = kept ++ p.opening → after = p.closing ++ rest → Erases e before after kept rest
  | char {kept : Text} {last : Char} :
    (∀ q ∈ e.pairs, ¬ q.Around before after) → before = kept ++ [last] →
      Erases e before after kept after

/-- The decision on a text typed between two parts. -/
def decision (e : ClosingPairs) (tokens : TokenSource) (before typed after : Text) :
    CloseDecision :=
  if typed = [] then .passThrough
  else
    match e.opened? before typed with
    | some p => e.decideOpening p tokens before typed after
    | none => if e.stepsOver typed after then .suppress else .passThrough

theorem decide_width (e : ClosingPairs) (tokens : TokenSource) (before typed after : Text) :
    ∃ notices, e.decide (before ++ after) (Text.width before) typed tokens =
      .ok ⟨e.decision tokens before typed after, notices⟩ := by
  simp only [decide, Text.splitAt_width, ok_bind, decision]
  by_cases ht : typed = []
  · exact ⟨[], by simp only [if_pos ht]; rfl⟩
  · cases hp : e.opened? before typed with
    | some p => exact ⟨_, by simp only [if_neg ht]; rfl⟩
    | none =>
      by_cases hs : e.stepsOver typed after = true
      · exact ⟨_, by simp only [if_neg ht, if_pos hs]; rfl⟩
      · exact ⟨_, by simp only [if_neg ht, if_neg hs]; rfl⟩

/-- What stands after the caret once a text is typed there. -/
def afterTyping (e : ClosingPairs) (tokens : TokenSource) (before typed after : Text) : Text :=
  match e.decision tokens before typed after with
  | .passThrough => after
  | .suppress => after.drop typed.length
  | .insertWithClose closing => closing ++ after

/-- A pair is only repeated by a text that stands after the caret. -/
theorem prefix_of_isRepeated {p : ClosingPair} {typed after : Text}
    (h : p.isRepeated typed after = true) : typed <+: after := by
  simp only [ClosingPair.isRepeated, Bool.or_eq_true, Bool.and_eq_true, decide_eq_true_eq,
    List.isPrefixOf_iff_prefix] at h
  rcases h with ⟨rfl, h⟩ | ⟨rfl, h⟩ <;> exact h

theorem prefix_of_stepsOver {e : ClosingPairs} {typed after : Text}
    (h : e.stepsOver typed after = true) : typed <+: after := by
  simp only [stepsOver, List.any_eq_true, Bool.and_eq_true, List.isPrefixOf_iff_prefix] at h
  obtain ⟨_, _, _, h⟩ := h
  exact h

/-- A decision passes the text through, steps over the same text after the caret, or closes the
first pair whose opening text is completed. -/
theorem decision_cases (e : ClosingPairs) (tokens : TokenSource) (before typed after : Text) :
    e.decision tokens before typed after = .passThrough ∨
      (e.decision tokens before typed after = .suppress ∧ typed <+: after) ∨
      ∃ p, e.opened? before typed = some p ∧
        e.decision tokens before typed after = .insertWithClose p.closing := by
  unfold decision
  split
  next => exact Or.inl rfl
  next =>
    split
    next p hp =>
      unfold decideOpening
      split
      next hr => exact Or.inr (Or.inl ⟨rfl, prefix_of_isRepeated hr⟩)
      next =>
        split
        next => exact Or.inr (Or.inr ⟨p, hp, rfl⟩)
        next => exact Or.inl rfl
    next =>
      split
      next hs => exact Or.inr (Or.inl ⟨rfl, prefix_of_stepsOver hs⟩)
      next => exact Or.inl rfl

/-- A pair that is opened and steps over nothing is closed, or the text is passed through. -/
theorem decision_of_not_repeated {e : ClosingPairs} {tokens : TokenSource}
    {before typed after : Text} {p : ClosingPair} (ht : typed ≠ [])
    (hp : e.opened? before typed = some p) (hrepeated : p.isRepeated typed after = false) :
    e.decision tokens before typed after =
      if e.closesBefore after && scopeAllows p tokens before then .insertWithClose p.closing
      else .passThrough := by
  simp only [decision, if_neg ht, hp, decideOpening, hrepeated, Bool.false_eq_true, if_false]

theorem decision_of_allowed {e : ClosingPairs} {tokens : TokenSource} {before typed after : Text}
    {p : ClosingPair} (ht : typed ≠ []) (hp : e.opened? before typed = some p)
    (hrepeated : p.isRepeated typed after = false) (hcloses : e.closesBefore after = true)
    (hscope : scopeAllows p tokens before = true) :
    e.decision tokens before typed after = .insertWithClose p.closing := by
  rw [decision_of_not_repeated ht hp hrepeated, hcloses, hscope]
  rfl

theorem sublist_afterTyping (e : ClosingPairs) (tokens : TokenSource)
    (before typed after : Text) :
    after.Sublist (typed ++ e.afterTyping tokens before typed after) := by
  unfold afterTyping
  rcases e.decision_cases tokens before typed after with h | ⟨h, hpre⟩ | ⟨p, _, h⟩
  · rw [h]
    exact List.sublist_append_right typed after
  · obtain ⟨rest, rfl⟩ := hpre
    simp [h]
  · rw [h, ← List.append_assoc]
    exact List.sublist_append_right (typed ++ p.closing) after

end ClosingPairs

namespace Assistant

theorem typedCommand_length (offset : Nat) (typed : Text) (d : CloseDecision) :
    (typedCommand offset typed d).length = 0 := by
  cases d <;> rfl

/-- The typed text comes to stand before the caret, whatever is decided. -/
theorem typedCommand_leads (e : ClosingPairs) (tokens : TokenSource)
    (before typed after : Text) :
    (typedCommand (Text.width before) typed (e.decision tokens before typed after)).Leads before
      after (before ++ typed) (e.afterTyping tokens before typed after) := by
  unfold ClosingPairs.afterTyping
  rcases e.decision_cases tokens before typed after with h | ⟨h, hpre⟩ | ⟨p, _, h⟩
  · rw [h]
    exact Command.leads_insert before after typed
  · obtain ⟨rest, rfl⟩ := hpre
    rw [h]
    simpa [typedCommand] using Command.leads_stepOver before typed rest
  · rw [h]
    exact Command.leads_insertAround before after typed p.closing

theorem customize_typed (a : Assistant) (s : IndentSettings) (tokens : TokenSource)
    (before typed after : Text) (ht : isLineDelimiter typed = false) :
    ∃ notices, a.customize (before ++ after) (Text.width before) typed s tokens =
      .ok ⟨typedCommand (Text.width before) typed (a.pairs.decision tokens before typed after),
        notices⟩ := by
  obtain ⟨notices, h⟩ := a.pairs.decide_width tokens before typed after
  exact ⟨notices ++ [], by simp only [customize, ht, h]; rfl⟩

end Assistant

/-- What an action inserts stands partly before the caret and partly after it. -/
theorem ResolvedAction.realize_parts (a : ResolvedAction) (delimiter : Text)
    (s : IndentSettings) :
    ∃ front back, a.realize delimiter s = (front ++ back, Text.width front) := by
  unfold realize
  cases a.indent with
  | keep | indent | outdent => exact ⟨_, [], by rw [List.append_nil]⟩
  | indentOutdent =>
    exact ⟨delimiter ++ s.normalize (a.indentation ++ a.appendText),
      delimiter ++ s.normalize a.indentation, by simp⟩

namespace Document

variable {d : Document} {offset : Nat}

theorem rowOf_ok (h : Text.IsBoundary d.text offset) :
    d.rowOf offset = .ok ((d.lines.takeWhile (·.start ≤ offset)).length - 1) := by
  obtain ⟨parts, hp⟩ := Text.isBoundary_iff_splitAt.mp h
  simp only [rowOf, hp]
  rfl

theorem splitLineAt_ok (h : Text.IsBoundary d.text offset) :
    ∃ parts, d.splitLineAt offset = .ok parts := by
  exact ⟨_, by simp only [splitLineAt, rowOf_ok h]; rfl⟩

theorem leadingIndentAt_ok (h : Text.IsBoundary d.text offset) :
    ∃ indentation, d.leadingIndentAt offset = .ok indentation := by
  obtain ⟨parts, hp⟩ := splitLineAt_ok h
  exact ⟨_, by simp only [leadingIndentAt, hp]; rfl⟩

end Document

theorem EnterRules.resolve_ok (e : EnterRules) {d : Document} {offset : Nat}
    (h : Text.IsBoundary d.text offset) : ∃ resolved, e.resolve d offset = .ok resolved := by
  obtain ⟨parts, hp⟩ := Document.splitLineAt_ok h
  exact ⟨_, by simp only [resolve, Document.rowOf_ok h, hp]; rfl⟩

namespace Assistant

/-- Enter only inserts, and the caret goes into or after what is inserted. -/
theorem pressEnter_leads (a : Assistant) (s : IndentSettings) (delimiter before after : Text) :
    ∃ answer front back,
      a.pressEnter (before ++ after) (Text.width before) delimiter s = .ok answer ∧
        answer.value.length = 0 ∧
        answer.value.Leads before after (before ++ front) (back ++ after) := by
  have hb := Text.isBoundary_width before after
  obtain ⟨resolved, hr⟩ := a.enter.resolve_ok (d := Document.ofText (before ++ after)) hb
  obtain ⟨indentation, hi⟩ :=
    Document.leadingIndentAt_ok (d := Document.ofText (before ++ after)) hb
  cases hv : resolved.value with
  | none =>
    refine ⟨_, delimiter ++ indentation, [], by simp only [pressEnter, hr, hi]; rfl, ?_⟩
    simp only [Logged.value_bind, hv, Logged.value_pure]
    exact ⟨rfl, Command.leads_insert before after _⟩
  | some action =>
    obtain ⟨front, back, hp⟩ := action.realize_parts delimiter s
    refine ⟨_, front, back, by simp only [pressEnter, hr, hi]; rfl, ?_⟩
    simp only [Logged.value_bind, hv, hp, Logged.value_pure]
    exact ⟨rfl, Command.leads_insertAround before after front back⟩

theorem backspace_start (a : Assistant) (after : Text) :
    ∃ notices, a.backspace after 0 = .ok ⟨none, notices⟩ := by
  have hz := Text.splitAt_width [] after
  simp only [List.nil_append, Text.width_nil] at hz
  obtain hp | ⟨p, hp⟩ := (a.pairs.pairs.find? (·.surrounds [] after)).eq_none_or_eq_some
  all_goals
    simp only [backspace, ClosingPairs.decideDelete, hz, ok_bind, hp]
    exact ⟨_, rfl⟩

theorem backspace_char (a : Assistant) (kept : Text) (last : Char) (after : Text)
    (hp : a.pairs.pairs.find? (·.surrounds (kept ++ [last]) after) = none) :
    a.backspace (kept ++ [last] ++ after) (Text.width (kept ++ [last])) =
      .ok ⟨some (.delete (Text.width kept) last.utf8Size true), []⟩ := by
  have hw : Text.width (kept ++ [last]) - last.utf8Size = Text.width kept := by simp
  simp only [backspace, ClosingPairs.decideDelete, Text.splitAt_width, ok_bind, hp, pure_eq_ok,
    List.getLast?_concat, hw]
  rfl

theorem backspace_pair (a : Assistant) (kept rest : Text) (p : ClosingPair)
    (hp : a.pairs.pairs.find? (·.surrounds (kept ++ p.opening) (p.closing ++ rest)) = some p) :
    a.backspace (kept ++ p.opening ++ (p.closing ++ rest)) (Text.width (kept ++ p.opening)) =
      .ok ⟨some (.delete (Text.width kept) (Text.width (p.opening ++ p.closing)) false),
        [.pairDeleted (Text.width kept)]⟩ := by
  have hw : Text.width (kept ++ p.opening) - Text.width p.opening = Text.width kept := by simp
  have hne : kept ++ p.opening ≠ [] := List.append_ne_nil_of_right_ne_nil kept p.pair.opening_ne
  obtain ⟨last, hl⟩ := Option.isSome_iff_exists.mp (List.getLast?_isSome.mpr hne)
  simp only [backspace, ClosingPairs.decideDelete, Text.splitAt_width, ok_bind, hp, pure_eq_ok,
    hl, hw]
  rfl

/-- A command for typed text or Enter takes nothing away. -/
theorem customize_leads (a : Assistant) (s : IndentSettings) (tokens : TokenSource)
    (before typed after : Text) :
    ∃ answer before' after',
      a.customize (before ++ after) (Text.width before) typed s tokens = .ok answer ∧
        answer.value.length = 0 ∧ answer.value.Leads before after before' after' ∧
        (before ++ after).Sublist (before' ++ after') := by
  cases ht : isLineDelimiter typed with
  | true =>
    obtain ⟨answer, front, back, h, hlength, hleads⟩ := a.pressEnter_leads s typed before after
    refine ⟨answer, _, _, by simpa only [customize, ht, if_true] using h, hlength, hleads, ?_⟩
    rw [List.append_assoc, ← List.append_assoc front]
    exact (List.sublist_append_right (front ++ back) after).append_left before
  | false =>
    obtain ⟨notices, h⟩ := a.customize_typed s tokens before typed after ht
    refine ⟨_, _, _, h, typedCommand_length _ _ _, typedCommand_leads a.pairs tokens before typed
      after, ?_⟩
    rw [List.append_assoc]
    exact (a.pairs.sublist_afterTyping tokens before typed after).append_left before

/-- A backspace at the start of the text does nothing. Elsewhere it deletes the texts of the first
pair around the caret, or the character before the caret if no pair is around it. -/
theorem backspace_erases (a : Assistant) (before after : Text) :
    ∃ answer, a.backspace (before ++ after) (Text.width before) = .ok answer ∧
      ((before = [] ∧ answer.value = none) ∨
        ∃ c kept rest, answer.value = some c ∧ c.Leads before after kept rest ∧
          a.pairs.Erases before after kept rest) := by
  obtain hp | ⟨p, hp⟩ := (a.pairs.pairs.find? (·.surrounds before after)).eq_none_or_eq_some
  · rcases List.eq_nil_or_concat' before with rfl | ⟨kept, last, rfl⟩
    · obtain ⟨notices, h⟩ := a.backspace_start after
      exact ⟨_, h, Or.inl ⟨rfl, rfl⟩⟩
    · have hnone : ∀ q ∈ a.pairs.pairs, ¬ q.Around (kept ++ [last]) after := by
        intro q hq haround
        exact List.find?_eq_none.mp hp q hq (ClosingPair.surrounds_iff.mpr haround)
      refine ⟨_, a.backspace_char kept last after hp,
        Or.inr ⟨_, kept, after, rfl, ?_, .char hnone rfl⟩⟩
      simpa using Command.leads_delete kept [last] [] after true
  · obtain ⟨hsurrounds, front, back, hpairs, hfront⟩ := List.find?_eq_some_iff_append.mp hp
    obtain ⟨⟨kept, rfl⟩, ⟨rest, rfl⟩⟩ := ClosingPair.surrounds_iff.mp hsurrounds
    have hfirst : ∀ q ∈ front, ¬ q.Around (kept ++ p.opening) (p.closing ++ rest) := by
      intro q hq haround
      have hnot := hfront q hq
      rw [ClosingPair.surrounds_iff.mpr haround] at hnot
      cases hnot
    exact ⟨_, a.backspace_pair kept rest p hp,
      Or.inr ⟨_, kept, rest, rfl, Command.leads_delete kept p.opening p.closing rest false,
        .pair hpairs hfirst rfl rfl⟩⟩

end Assistant

end Keystroke
