import Keystroke.Proofs.NewLine
import Keystroke.Proofs.Places

namespace Keystroke

section Surroundings

variable {t : Text} {lines : List (Text × LineEnding)}

/-- Whole lines above a text keep their division and leave that of the text as it is. -/
theorem DividesInto.exists_above (h : DividesInto t lines)
    (ht : t = [] ∨ t.getLast? = some '\n') :
    ∃ upper, t = upper.flatMap withEnding ∧
      ∀ below, lineTexts (t ++ below) = upper ++ lineTexts below := by
  induction h with
  | @last l hl =>
    have hnil : l = [] := by
      refine ht.resolve_right fun hlast => ?_
      exact (hl '\n' (List.mem_of_getLast? hlast)).1 rfl
    exact ⟨[], hnil, fun below => by rw [hnil]; rfl⟩
  | @line l e rest lines hl he hreturn _ ih =>
    have hne : e.text ++ rest ≠ [] := by
      cases e <;> simp_all [LineEnding.text]
    have hlast : (e.text ++ rest).getLast? = some '\n' := by
      rw [← List.getLast?_append_of_ne_nil l hne]
      exact ht.resolve_left (List.append_ne_nil_of_right_ne_nil l hne)
    have hrest : rest = [] ∨ rest.getLast? = some '\n' := by
      refine or_iff_not_imp_left.mpr fun hrest => ?_
      rwa [List.getLast?_append_of_ne_nil _ hrest] at hlast
    have hhead (below : Text) (hcr : e = .carriageReturn) : (rest ++ below).head? ≠ some '\n' := by
      cases rest with
      | nil => simp [hcr, LineEnding.text] at hlast
      | cons c rest => exact hreturn hcr
    obtain ⟨upper, hupper, hlines⟩ := ih hrest
    refine ⟨(l, e) :: upper, ?_, fun below => ?_⟩
    · rw [List.flatMap_cons, ← hupper, withEnding, List.append_assoc]
    · rw [List.append_assoc, List.append_assoc, lineTexts_line hl he (hhead below), hlines]
      rfl

/-- A line feed below a text ends its last line, and all other lines stay as they are. -/
theorem DividesInto.exists_below (h : DividesInto t lines) (ht : t.getLast? ≠ some '\r')
    (rest : Text) :
    ∃ upper l, lines = upper ++ [(l, .absent)] ∧
      lineTexts (t ++ '\n' :: rest) = upper ++ (l, .lineFeed) :: lineTexts rest := by
  induction h with
  | @last l hl => exact ⟨[], l, rfl, lineTexts_line (e := .lineFeed) hl (by decide) (by simp)⟩
  | @line l e more lines hl he hreturn _ ih =>
    have hlast : more.getLast? ≠ some '\r' := by
      intro hlast
      refine ht ?_
      rw [List.getLast?_append, List.getLast?_append, hlast]
      rfl
    have hhead (hcr : e = .carriageReturn) : (more ++ '\n' :: rest).head? ≠ some '\n' := by
      cases more with
      | nil => simp [hcr, LineEnding.text] at ht
      | cons c more => exact hreturn hcr
    obtain ⟨upper, m, rfl, hlines⟩ := ih hlast
    refine ⟨(l, e) :: upper, m, rfl, ?_⟩
    rw [List.append_assoc, List.append_assoc, lineTexts_line hl he hhead, hlines]
    rfl

end Surroundings

namespace FallsInto

variable {t l : Text} {offset : Nat} {upper lower : List (Text × LineEnding)} {e : LineEnding}

theorem below (h : FallsInto t offset upper l e lower) (hoffset : offset ≤ Text.width t)
    (ht : t.getLast? ≠ some '\r') {rest : Text} (hrest : rest = [] ∨ rest.head? = some '\n') :
    ∃ e' lower', FallsInto (t ++ rest) offset upper l e' lower' := by
  rcases hrest with rfl | hhead
  · exact ⟨e, lower, by rwa [List.append_nil]⟩
  obtain ⟨more, rfl⟩ := List.head?_eq_some_iff.mp hhead
  obtain ⟨us, m, hus, hlines⟩ := (dividesInto_lineTexts t).exists_below ht more
  have hparts := h.lines.symm.trans hus
  rcases List.eq_nil_or_concat' lower with rfl | ⟨lower, u, rfl⟩
  · -- the line is the last one of the text, and the line feed ends it
    obtain ⟨rfl, hlast⟩ := List.append_inj' hparts rfl
    obtain ⟨rfl, rfl⟩ := Prod.mk.inj (List.singleton_inj.mp hlast)
    refine ⟨.lineFeed, lineTexts more, hlines, h.start, fun _ => ?_⟩
    have hwidth : Text.width t = Text.width (upper.flatMap withEnding) + Text.width l := by
      rw [← (dividesInto_lineTexts t).flatMap_withEnding, h.lines, List.flatMap_append,
        Text.width_append, width_flatMap_cons]
      rfl
    have hpos := LineEnding.width_text_pos (d := .lineFeed) (by decide)
    omega
  · have happend : (upper ++ (l, e) :: lower) ++ [u] = us ++ [(m, .absent)] := by
      rw [← hparts, List.append_assoc]
      rfl
    obtain ⟨rfl, -⟩ := List.append_inj' happend rfl
    refine ⟨e, lower ++ (m, .lineFeed) :: lineTexts more, ?_, h.start, fun _ => h.stop (by simp)⟩
    rw [hlines, List.append_assoc]
    rfl

theorem above (h : FallsInto t offset upper l e lower) {rest : Text}
    (hrest : rest = [] ∨ rest.getLast? = some '\n') :
    ∃ upper', Text.width (upper'.flatMap withEnding) = Text.width rest ∧
      FallsInto (rest ++ t) (Text.width rest + offset) (upper' ++ upper) l e lower := by
  obtain ⟨upper', hupper, hlines⟩ := (dividesInto_lineTexts rest).exists_above hrest
  have hwidth : Text.width (upper'.flatMap withEnding) = Text.width rest := by rw [← hupper]
  have hstart := h.start
  refine ⟨upper', hwidth, ?_, ?_, ?_⟩
  · rw [hlines, h.lines, List.append_assoc]
  · rw [List.flatMap_append, Text.width_append]
    omega
  · intro hlower
    have hstop := h.stop hlower
    rw [List.flatMap_append, Text.width_append]
    omega

end FallsInto

theorem Text.IsBoundary.around {t : Text} {offset : Nat} (h : Text.IsBoundary t offset)
    (above below : Text) :
    Text.IsBoundary (above ++ t ++ below) (Text.width above + offset) := by
  obtain ⟨before, after, rfl, rfl⟩ := h
  exact ⟨above ++ before, after ++ below, by simp, Text.width_append above before⟩

/-- Enter is decided on the line above and on the two parts of the line of the caret. -/
theorem EnterRules.resolve_of_fallsInto (e : EnterRules) {t l front back : Text} {offset : Nat}
    {upper lower : List (Text × LineEnding)} {ending : LineEnding}
    (h : FallsInto t offset upper l ending lower) (hb : Text.IsBoundary t offset)
    (hcut : Text.cut l (offset - Text.width (upper.flatMap withEnding)) = (front, back)) :
    e.resolve (Document.ofText t) offset =
      .ok (do
        return (← e.decide (lastText upper) front back).map (·.resolve (leadingIndent front))) := by
  simp only [resolve, h.rowOf hb, h.splitLineAt hb, h.lineText?_above, hcut, ok_bind, pure_eq_ok]

/-- Where an action is the same, its commands differ by the distance of their offsets. -/
theorem enterCommand_moved (m n : Nat) (delimiter : Text) (s : IndentSettings) (front : Text)
    (action : Option ResolvedAction) :
    let c := enterCommand m delimiter s front action
    let c' := enterCommand n delimiter s front action
    c.text = c'.text ∧ c.length = c'.length ∧ c.shiftsCaret = c'.shiftsCaret ∧
      (c.offset : Int) - c'.offset = m - n ∧ (c.caret : Int) - c'.caret = m - n := by
  cases action with
  | none =>
    refine ⟨rfl, rfl, rfl, rfl, ?_⟩
    simp only [enterCommand, Command.insert]
    omega
  | some a =>
    refine ⟨rfl, rfl, rfl, rfl, ?_⟩
    simp only [enterCommand, Command.insertAround]
    omega

namespace Assistant

/-- Below at least one line of its own, a text tells all about Enter in it, whatever whole lines
stand around it. -/
theorem exists_enterCommand (a : Assistant) {t : Text} {offset row : Nat}
    (ht : t.getLast? ≠ some '\r') (hrow : (Document.ofText t).rowOf offset = .ok row)
    (hpos : 1 ≤ row) :
    ∃ front action, ∀ (s : IndentSettings) (tokens : TokenSource) {typed : Text}
      (above below : Text), isLineDelimiter typed = true →
        (above = [] ∨ above.getLast? = some '\n') → (below = [] ∨ below.head? = some '\n') →
          ∃ answer, a.customize (above ++ t ++ below) (Text.width above + offset) typed s tokens =
              .ok answer ∧
            answer.value = enterCommand (Text.width above + offset) typed s front action := by
  have hb : Text.IsBoundary t offset := Document.isBoundary_of_rowOf hrow
  obtain ⟨upper, l, e, lower, hfalls⟩ := exists_fallsInto t offset
  have hlength : upper.length = row := Except.ok.inj ((hfalls.rowOf hb).symm.trans hrow)
  have hupper : upper ≠ [] := List.ne_nil_of_length_pos (by omega)
  obtain ⟨front, back, hcut⟩ : ∃ front back,
      Text.cut l (offset - Text.width (upper.flatMap withEnding)) = (front, back) := ⟨_, _, rfl⟩
  refine ⟨front, ((a.enter.decide (lastText upper) front back).value.map
    (·.resolve (leadingIndent front))), ?_⟩
  intro s tokens typed above below htyped habove hbelow
  have hb' := hb.around above below
  rw [List.append_assoc] at hb'
  obtain ⟨e', lower', hfalls'⟩ := hfalls.below hb.le_width ht hbelow
  obtain ⟨upper', hwidth, hfalls'⟩ := hfalls'.above habove
  have hlast : lastText (upper' ++ upper) = lastText upper := by
    rw [lastText, List.getLast?_append_of_ne_nil _ hupper, lastText]
  have hcut' : Text.cut l (Text.width above + offset -
      Text.width ((upper' ++ upper).flatMap withEnding)) = (front, back) := by
    rw [List.flatMap_append, Text.width_append, hwidth, Nat.add_sub_add_left, hcut]
  have hresolve := a.enter.resolve_of_fallsInto hfalls' hb' hcut'
  have hsplit := hfalls'.splitLineAt hb'
  rw [hcut'] at hsplit
  rw [hlast] at hresolve
  obtain ⟨answer, hanswer, hvalue⟩ := a.pressEnter_eq s typed hsplit hresolve
  refine ⟨answer, ?_, hvalue⟩
  rw [customize, if_pos htyped, List.append_assoc, hanswer]

/-- Enter in a text that has a line above the caret gives the same command whatever lines the text
stands among: these move the command, and change nothing else of it. -/
theorem enter_local (a : Assistant) (s : IndentSettings) (tokens tokens' : TokenSource)
    (typed t above above' below below' : Text) {offset row : Nat}
    (htyped : isLineDelimiter typed = true) (ht : t.getLast? ≠ some '\r')
    (hrow : (Document.ofText t).rowOf offset = .ok row) (hpos : 1 ≤ row)
    (habove : above = [] ∨ above.getLast? = some '\n')
    (habove' : above' = [] ∨ above'.getLast? = some '\n')
    (hbelow : below = [] ∨ below.head? = some '\n')
    (hbelow' : below' = [] ∨ below'.head? = some '\n') :
    ∃ answer answer',
      a.customize (above ++ t ++ below) (Text.width above + offset) typed s tokens = .ok answer ∧
      a.customize (above' ++ t ++ below') (Text.width above' + offset) typed s tokens' =
        .ok answer' ∧
      answer.value.text = answer'.value.text ∧ answer.value.length = answer'.value.length ∧
      answer.value.shiftsCaret = answer'.value.shiftsCaret ∧
      (answer.value.offset : Int) - answer'.value.offset =
        Text.width above - Text.width above' ∧
      (answer.value.caret : Int) - answer'.value.caret =
        Text.width above - Text.width above' := by
  obtain ⟨front, action, henter⟩ := a.exists_enterCommand ht hrow hpos
  obtain ⟨answer, hanswer, hvalue⟩ := henter s tokens above below htyped habove hbelow
  obtain ⟨answer', hanswer', hvalue'⟩ := henter s tokens' above' below' htyped habove' hbelow'
  obtain ⟨htext, hlength, hshifts, hoffset, hcaret⟩ := enterCommand_moved
    (Text.width above + offset) (Text.width above' + offset) typed s front action
  rw [← hvalue, ← hvalue'] at htext hlength hshifts hoffset hcaret
  refine ⟨answer, answer', hanswer, hanswer', htext, hlength, hshifts, ?_, ?_⟩
  · omega
  · omega

theorem enter_local_stars :
    ∃ answer answer',
      stars.customize ['x', '\n', 'é', '\n', ' ', ' ', '(', '\n', ')'] 8 ['\r', '\n'] .standard
        (fun _ => none) = .ok answer ∧
      stars.customize ['é', '\n', ' ', ' ', '('] 6 ['\r', '\n'] .standard (fun _ => none) =
        .ok answer' ∧
      answer.value.text = answer'.value.text ∧
      (answer.value.caret : Int) - answer'.value.caret = 2 := by
  have hrow : (Document.ofText ['é', '\n', ' ', ' ', '(']).rowOf 6 = .ok 1 := rfl
  obtain ⟨answer, answer', hanswer, hanswer', htext, -, -, -, hcaret⟩ :=
    enter_local stars .standard (fun _ => none) (fun _ => none) ['\r', '\n']
      ['é', '\n', ' ', ' ', '('] ['x', '\n'] [] ['\n', ')'] [] (by decide) (by simp) hrow
      (by decide) (by simp) (by simp) (by simp) (by simp)
  exact ⟨answer, answer', hanswer, hanswer', htext, hcaret⟩

end Assistant

end Keystroke
