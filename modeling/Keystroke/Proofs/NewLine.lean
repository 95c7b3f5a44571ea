import Keystroke.Proofs.Lines

namespace Keystroke

section Inserted

variable {s : IndentSettings} {t rest : Text} {c : Char}

theorem IndentSettings.mem_canonical {n : Nat} (hc : c ∈ s.canonical n) : c = ' ' ∨ c = '\t' := by
  unfold canonical at hc
  split at hc
  next => exact Or.inl (List.eq_of_mem_replicate hc)
  next =>
    rcases List.mem_append.mp hc with hc | hc
    · exact Or.inr (List.eq_of_mem_replicate hc)
    · exact Or.inl (List.eq_of_mem_replicate hc)

theorem IndentSettings.mem_normalize (hc : c ∈ s.normalize t) : c = ' ' ∨ c = '\t' ∨ c ∈ t := by
  rcases List.mem_append.mp hc with hc | hc
  · exact (mem_canonical hc).imp_right Or.inl
  · exact Or.inr (Or.inr ((List.dropWhile_sublist isIndentChar).subset hc))

theorem IndentSettings.suffix_of_dropUnit? (h : s.dropUnit? t = some rest) : rest <:+ t := by
  unfold dropUnit? at h
  split at h
  next =>
    cases Option.some.inj h
    exact List.suffix_cons _ _
  next =>
    split at h
    next => exact ⟨_, (dropSpaces?_eq_some.mp h).symm⟩
    next => cases h

theorem IndentSettings.mem_outdent (hc : c ∈ s.outdent t) : c ∈ t := by
  unfold outdent at hc
  cases h : s.dropUnit? t with
  | none => simpa [h] using hc
  | some rest =>
    rw [h, Option.getD_some] at hc
    exact (suffix_of_dropUnit? h).subset hc

theorem IndentSettings.mem_wholeUnits (hc : c ∈ s.wholeUnits t) : c ∈ t := by
  fun_induction s.wholeUnits t with
  | case1 t rest h ih =>
    rcases List.mem_append.mp hc with hc | hc
    · exact List.mem_of_mem_take hc
    · exact (suffix_of_dropUnit? h).subset (ih hc)
  | case2 => simp at hc

theorem Text.isOneLine_of_mem {t : Text}
    (ht : ∀ c ∈ t, c = ' ' ∨ c = '\t' ∨ (c ≠ '\n' ∧ c ≠ '\r')) : t.IsOneLine := by
  intro c hc
  rcases ht c hc with rfl | rfl | h
  · decide
  · decide
  · exact h

end Inserted

namespace EnterRules

variable {e : EnterRules} {previous before after : Text} {action : EnterAction}

/-- No rule appends a text with a line ending in it. -/
def AppendsInLine (e : EnterRules) : Prop :=
  ∀ r ∈ e.rules, ∀ t ∈ r.action.appendText, Text.IsOneLine t

theorem mem_of_firstFiring {rules : List EnterRule} {r : EnterRule}
    (h : (EnterRule.firstFiring previous before after rules).value = some r) : r ∈ rules := by
  rw [EnterRule.value_firstFiring] at h
  exact List.mem_of_find?_eq_some h

theorem appendText_of_decideBrackets (h : (e.decideBrackets before after).value = some action) :
    action.appendText = none := by
  unfold decideBrackets at h
  split at h
  next => exact Option.some.inj h ▸ rfl
  next =>
    split at h
    next => exact Option.some.inj h ▸ rfl
    next => cases h

theorem isOneLine_of_decide (he : e.AppendsInLine)
    (h : (e.decide previous before after).value = some action) :
    ∀ t ∈ action.appendText, Text.IsOneLine t := by
  rw [decide, Logged.value_bind] at h
  split at h
  next r hr =>
    cases Option.some.inj h
    exact he r (mem_of_firstFiring hr)
  next => simp [appendText_of_decideBrackets h]

end EnterRules

theorem isOneLine_leadingIndent (t : Text) : (leadingIndent t).IsOneLine := by
  intro c hc
  have hindent := List.all_eq_true.mp List.all_takeWhile c hc
  simp only [isIndentChar, Bool.or_eq_true, decide_eq_true_eq] at hindent
  rcases hindent with rfl | rfl <;> decide

theorem Text.IsOneLine.append {t u : Text} (ht : t.IsOneLine) (hu : u.IsOneLine) :
    Text.IsOneLine (t ++ u) := by
  intro c hc
  rcases List.mem_append.mp hc with hc | hc
  · exact ht c hc
  · exact hu c hc

theorem Text.IsOneLine.normalize {t : Text} (ht : t.IsOneLine) (s : IndentSettings) :
    (s.normalize t).IsOneLine := by
  apply Text.isOneLine_of_mem
  intro c hc
  exact (IndentSettings.mem_normalize hc).imp_right (Or.imp_right (ht c))

theorem EnterAction.mem_appendText_resolve {action : EnterAction} {indentation : Text} {c : Char}
    (hc : c ∈ (action.resolve indentation).appendText) :
    c = '\t' ∨ ∃ t ∈ action.appendText, c ∈ t := by
  simp only [resolve] at hc
  cases ht : action.appendText with
  | none => cases hi : action.indent <;> simp_all
  | some t => cases hi : action.indent <;> simp_all

theorem EnterAction.isOneLine_resolve {action : EnterAction} {indentation : Text}
    (happend : ∀ t ∈ action.appendText, Text.IsOneLine t) (hindentation : indentation.IsOneLine) :
    (action.resolve indentation).appendText.IsOneLine ∧
      (action.resolve indentation).indentation.IsOneLine := by
  constructor
  · intro c hc
    rcases mem_appendText_resolve hc with rfl | ⟨t, ht, hct⟩
    · decide
    · exact happend t ht c hct
  · intro c hc
    exact hindentation c (List.mem_of_mem_take hc)

/-- The text of the line that an action puts in. -/
def ResolvedAction.newLine (a : ResolvedAction) (s : IndentSettings) : Text :=
  match a.indent with
  | .outdent => s.outdent (s.normalize (s.wholeUnits a.indentation ++ a.appendText))
  | _ => s.normalize (a.indentation ++ a.appendText)

theorem ResolvedAction.isOneLine_newLine {a : ResolvedAction} (s : IndentSettings)
    (happend : a.appendText.IsOneLine) (hindentation : a.indentation.IsOneLine) :
    (a.newLine s).IsOneLine := by
  unfold newLine
  split
  next =>
    have hwhole : Text.IsOneLine (s.wholeUnits a.indentation) :=
      fun c hc => hindentation c (IndentSettings.mem_wholeUnits hc)
    intro c hc
    exact (hwhole.append happend).normalize s c (IndentSettings.mem_outdent hc)
  next => exact (hindentation.append happend).normalize s

theorem EnterRules.resolve_eq (e : EnterRules) {d : Document} {offset : Nat} {front back : Text}
    (h : Text.IsBoundary d.text offset) (hsplit : d.splitLineAt offset = .ok (front, back)) :
    ∃ previous resolved, e.resolve d offset = .ok resolved ∧
      resolved.value =
        (e.decide previous front back).value.map (·.resolve (leadingIndent front)) := by
  exact ⟨_, _, by simp only [resolve, Document.rowOf_ok h, hsplit]; rfl, rfl⟩

theorem EnterRules.isOneLine_of_resolved {e : EnterRules} {previous front back : Text}
    (happend : e.AppendsInLine) {a : ResolvedAction}
    (ha : a ∈ (e.decide previous front back).value.map (·.resolve (leadingIndent front))) :
    a.appendText.IsOneLine ∧ a.indentation.IsOneLine := by
  obtain ⟨action, haction, rfl⟩ := Option.map_eq_some_iff.mp ha
  exact EnterAction.isOneLine_resolve (isOneLine_of_decide happend haction)
    (isOneLine_leadingIndent front)

/-- The command for Enter on a line with `front` before the caret. -/
def enterCommand (offset : Nat) (delimiter : Text) (s : IndentSettings) (front : Text) :
    Option ResolvedAction → Command
  | none => .insert offset (delimiter ++ leadingIndent front)
  | some a => .insertAround offset (a.realize delimiter s).1 (a.realize delimiter s).2

theorem Assistant.pressEnter_eq (a : Assistant) (s : IndentSettings) (delimiter : Text)
    {text front back : Text} {offset : Nat} {resolved : Logged (Option ResolvedAction)}
    (hsplit : (Document.ofText text).splitLineAt offset = .ok (front, back))
    (hresolve : a.enter.resolve (Document.ofText text) offset = .ok resolved) :
    ∃ answer, a.pressEnter text offset delimiter s = .ok answer ∧
      answer.value = enterCommand offset delimiter s front resolved.value := by
  refine ⟨_, by simp only [pressEnter, Document.leadingIndentAt, hresolve, hsplit]; rfl, ?_⟩
  rw [Logged.value_bind]
  cases resolved.value <;> rfl

/-- What an action inserts after its line: nothing, or the line that closes the pair. -/
theorem ResolvedAction.realize_eq (a : ResolvedAction) (delimiter : Text) (s : IndentSettings) :
    a.realize delimiter s =
      (delimiter ++ a.newLine s ++
        (if a.indent = .indentOutdent then delimiter ++ s.normalize a.indentation else []),
        Text.width (delimiter ++ a.newLine s)) := by
  unfold realize newLine
  cases a.indent <;> simp

/-- What Enter puts on the new row before the caret. -/
def enteredText (s : IndentSettings) (front : Text) : Option ResolvedAction → Text
  | none => leadingIndent front
  | some a => a.newLine s

/-- The indentation of the line that Enter makes of what follows the caret, if it gets one. -/
def closingIndent? (s : IndentSettings) : Option ResolvedAction → Option Text
  | none => none
  | some a => if a.indent = .indentOutdent then some (s.normalize a.indentation) else none

/-- The lines that Enter makes of a line with `front` before the caret and `back` after it. -/
def enteredLines (s : IndentSettings) (front back : Text) (action : Option ResolvedAction) :
    List Text :=
  match closingIndent? s action with
  | none => [front, enteredText s front action ++ back]
  | some closing => [front, enteredText s front action, closing ++ back]

theorem Document.lineCount_eq (d : Document) : d.lineCount = (d.lines.map Line.text).length := by
  rw [lineCount, List.length_map]

theorem isLineDelimiter_text {d : LineEnding} (hd : d ≠ .absent) :
    isLineDelimiter d.text = true := by
  cases d with
  | absent => exact absurd rfl hd
  | lineFeed | carriageReturn | both => rfl

section Insertion

variable {d : LineEnding} {s : IndentSettings} {upper lower lower' : List Text}
  {front back back' inserted tail before after : Text} {action : Option ResolvedAction}
  {c : Command}

/-- The text that Enter inserts, before the caret and after it. -/
theorem enterCommand_leads (d : LineEnding) (s : IndentSettings) (before after front : Text)
    (action : Option ResolvedAction) :
    (enterCommand (Text.width before) d.text s front action).Leads before after
      (before ++ (d.text ++ enteredText s front action))
      ((closingIndent? s action).elim [] (d.text ++ ·) ++ after) := by
  cases action with
  | none => exact Command.leads_insert before after _
  | some a =>
    have hleads := Command.leads_insertAround before after (d.text ++ a.newLine s)
      (if a.indent = .indentOutdent then d.text ++ s.normalize a.indentation else [])
    rw [enterCommand, a.realize_eq]
    by_cases ha : a.indent = .indentOutdent <;> simpa [closingIndent?, ha, enteredText] using hleads

/-- The lines of Enter are the part before the caret and a line that begins with what is put on the
new row; what is inserted after the caret makes up the rest. -/
theorem enteredLines_eq (d : LineEnding) (s : IndentSettings) (front back : Text)
    (lower : List Text) (action : Option ResolvedAction) :
    ∃ back' lower', enteredLines s front back action ++ lower =
        [front] ++ (enteredText s front action ++ back') :: lower' ∧
      (closingIndent? s action).elim [] (d.text ++ ·) ++ d.joined (back :: lower) =
        d.joined (back' :: lower') := by
  unfold enteredLines
  cases closingIndent? s action with
  | none => exact ⟨back, lower, rfl, rfl⟩
  | some closing =>
    refine ⟨[], (closing ++ back) :: lower, by simp, ?_⟩
    rw [LineEnding.joined_cons d [] (List.cons_ne_nil _ _), LineEnding.joined_append_cons]
    simp

/-- An ending that is inserted starts a row, on which the caret comes to stand behind what is
inserted with it. -/
theorem Command.Leads.newRow
    (hc : c.Leads (d.above upper ++ front) (d.joined (back :: lower))
      (d.above upper ++ front ++ (d.text ++ inserted)) (tail ++ d.joined (back :: lower)))
    (htail : tail ++ d.joined (back :: lower) = d.joined (back' :: lower')) :
    c.apply (d.above upper ++ front ++ d.joined (back :: lower)) =
        d.joined (upper ++ [front] ++ (inserted ++ back') :: lower') ∧
      c.caretAfter = Text.width (d.above (upper ++ [front]) ++ inserted) := by
  have habove : d.above (upper ++ [front]) ++ inserted =
      d.above upper ++ front ++ (d.text ++ inserted) := by
    simp [LineEnding.above]
  rw [LineEnding.joined_split, habove, ← htail]
  exact ⟨hc.text, hc.caret⟩

theorem isOneLine_enteredLines (hfront : front.IsOneLine) (hback : back.IsOneLine)
    (haction : ∀ a ∈ action, a.appendText.IsOneLine ∧ a.indentation.IsOneLine) :
    ∀ l ∈ enteredLines s front back action, Text.IsOneLine l := by
  have hentered : (enteredText s front action).IsOneLine := by
    cases action with
    | none => exact isOneLine_leadingIndent front
    | some a => exact a.isOneLine_newLine s (haction a rfl).1 (haction a rfl).2
  have hclosing : ∀ closing ∈ closingIndent? s action, Text.IsOneLine closing := by
    intro closing hclosing
    cases action with
    | none => cases hclosing
    | some a =>
      obtain ⟨_, rfl⟩ : a.indent = .indentOutdent ∧ s.normalize a.indentation = closing := by
        simpa [closingIndent?] using hclosing
      exact (haction a rfl).2.normalize s
  unfold enteredLines
  split
  next => simp [hfront, hentered.append hback]
  next closing h => simp [hfront, hentered, (hclosing closing h).append hback]

/-- Where the lines of Enter take the place of the caret line, all lines are still lines. -/
theorem isOneLine_replaced (hlines : ∀ l ∈ upper ++ (front ++ back) :: lower, Text.IsOneLine l)
    (haction : ∀ a ∈ action, a.appendText.IsOneLine ∧ a.indentation.IsOneLine) :
    ∀ l ∈ upper ++ (enteredLines s front back action ++ lower), Text.IsOneLine l := by
  have hline : Text.IsOneLine (front ++ back) := hlines (front ++ back) (by simp)
  have hnew := isOneLine_enteredLines (s := s)
    (fun c hc => hline c (List.mem_append_left back hc))
    (fun c hc => hline c (List.mem_append_right front hc)) haction
  intro l hl
  rcases List.mem_append.mp hl with hl | hl
  · exact hlines l (by simp [hl])
  rcases List.mem_append.mp hl with hl | hl
  · exact hnew l hl
  · exact hlines l (by simp [hl])

theorem length_enteredLines :
    (enteredLines s front back action).length =
      1 + if action.any (·.indent = .indentOutdent) then 2 else 1 := by
  unfold enteredLines closingIndent?
  cases action with
  | none => rfl
  | some a => by_cases ha : a.indent = .indentOutdent <;> simp [ha]

/-- Enter in a line of a document, with the action that is decided there. -/
theorem Assistant.customize_enter (a : Assistant) (s : IndentSettings) (tokens : TokenSource)
    (hd : d ≠ .absent) (hlines : ∀ l ∈ upper ++ (front ++ back) :: lower, Text.IsOneLine l) :
    ∃ previous answer,
      a.customize (d.above upper ++ front ++ d.joined (back :: lower))
        (Text.width (d.above upper ++ front)) d.text s tokens = .ok answer ∧
      answer.value = enterCommand (Text.width (d.above upper ++ front)) d.text s front
        ((a.enter.decide previous front back).value.map (·.resolve (leadingIndent front))) := by
  have hsplit := Document.splitLineAt_joined hd hlines
  rw [LineEnding.joined_split] at hsplit
  obtain ⟨previous, resolved, hresolve, hvalue⟩ :=
    a.enter.resolve_eq (Text.isBoundary_width (d.above upper ++ front) _) hsplit
  obtain ⟨answer, hanswer, hcommand⟩ := a.pressEnter_eq s d.text hsplit hresolve
  refine ⟨previous, answer, ?_, hvalue ▸ hcommand⟩
  rw [customize, if_pos (isLineDelimiter_text hd), hanswer]

end Insertion

namespace Assistant

/-- Enter on a line of a document with one kind of line endings replaces this line by those that
the action makes of it, and no other. The caret comes to stand on the row below, behind what was
inserted there. -/
theorem enter_splits_line (a : Assistant) (s : IndentSettings) (tokens : TokenSource)
    (d : LineEnding) (hd : d ≠ .absent) (before after : Text)
    (htext : d.Delimits (before ++ after)) (hinside : ¬ InsideEnding before after)
    (happend : a.enter.AppendsInLine) :
    ∃ upper front back lower resolved answer,
      (Document.ofText (before ++ after)).lines.map Line.text = upper ++ (front ++ back) :: lower ∧
      (Document.ofText (before ++ after)).positionOf (Text.width before) =
        .ok ⟨upper.length, Text.width front⟩ ∧
      a.enter.resolve (Document.ofText (before ++ after)) (Text.width before) = .ok resolved ∧
      a.customize (before ++ after) (Text.width before) d.text s tokens = .ok answer ∧
      answer.value.apply (before ++ after) =
        d.joined (upper ++ (enteredLines s front back resolved.value ++ lower)) ∧
      (Document.ofText (answer.value.apply (before ++ after))).lines.map Line.text =
        upper ++ (enteredLines s front back resolved.value ++ lower) ∧
      (Document.ofText (answer.value.apply (before ++ after))).lineCount =
        (Document.ofText (before ++ after)).lineCount +
          (if resolved.value.any (·.indent = .indentOutdent) then 2 else 1) ∧
      (Document.ofText (answer.value.apply (before ++ after))).positionOf answer.value.caretAfter =
        .ok ⟨upper.length + 1, Text.width (enteredText s front resolved.value)⟩ := by
  obtain ⟨lines, hne, hlines, hjoined⟩ := htext
  obtain ⟨upper, front, back, lower, rfl, rfl, rfl⟩ := LineEnding.exists_split hne hjoined hinside
  -- the document before
  have hold := Document.map_text_lines hd hne hlines
  have hsplit := Document.splitLineAt_joined hd hlines
  have hposition := Document.positionOf_joined hd hlines
  rw [LineEnding.joined_split] at hold hsplit hposition
  obtain ⟨previous, resolved, hresolve, hvalue⟩ :=
    a.enter.resolve_eq (Text.isBoundary_width (d.above upper ++ front) _) hsplit
  obtain ⟨answer, hanswer, hcommand⟩ := a.pressEnter_eq s d.text hsplit hresolve
  have hcustomize : a.customize (d.above upper ++ front ++ d.joined (back :: lower))
      (Text.width (d.above upper ++ front)) d.text s tokens = .ok answer := by
    rw [customize, if_pos (isLineDelimiter_text hd), hanswer]
  -- the document after
  obtain ⟨back', lower', hentered, htail⟩ := enteredLines_eq d s front back lower resolved.value
  obtain ⟨htext, hcaret⟩ :=
    (enterCommand_leads d s (d.above upper ++ front) (d.joined (back :: lower)) front
      resolved.value).newRow htail
  have hparts : upper ++ (enteredLines s front back resolved.value ++ lower) =
      upper ++ [front] ++ (enteredText s front resolved.value ++ back') :: lower' := by
    rw [hentered, List.append_assoc]
  have haction : ∀ action ∈ resolved.value,
      action.appendText.IsOneLine ∧ action.indentation.IsOneLine := by
    rw [hvalue]
    exact fun action haction => EnterRules.isOneLine_of_resolved happend haction
  have hlines' := isOneLine_replaced (s := s) hlines haction
  rw [← hcommand] at htext hcaret
  have hnew := Document.map_text_lines hd (by simp [hparts]) hlines'
  rw [hparts] at hlines'
  have hposition' := Document.positionOf_joined hd hlines'
  refine ⟨upper, front, back, lower, resolved, answer, hold, hposition, hresolve, hcustomize, ?_,
    ?_, ?_, ?_⟩
  · rw [htext, hparts]
  · rw [htext, ← hparts, hnew]
  · rw [Document.lineCount_eq, Document.lineCount_eq, hold, htext, ← hparts, hnew]
    simp only [List.length_append, length_enteredLines, List.length_cons]
    omega
  · rw [htext, hcaret, hposition', List.length_append, List.length_singleton]

/-- An assistant that goes on with a star on every new line and puts the rest on the next one. -/
def stars : Assistant where
  enter :=
    ⟨[], [⟨⟨[], .empty, 0⟩, none, none,
      { indent := .indentOutdent, appendText := some [' ', '*'] }⟩]⟩
  pairs := ⟨[], []⟩

theorem enter_splits_line_stars :
    ∃ answer, stars.customize (['é', '\r', '\n', ' ', 'a'] ++ ['b']) 6 ['\r', '\n'] .standard
        (fun _ => none) = .ok answer ∧
      (Document.ofText (answer.value.apply ['é', '\r', '\n', ' ', 'a', 'b'])).lineCount = 4 := by
  have htext : LineEnding.both.Delimits (['é', '\r', '\n', ' ', 'a'] ++ ['b']) := by
    refine ⟨[['é'], [' ', 'a', 'b']], by simp, ?_, rfl⟩
    simp [Text.IsOneLine]
  have happend : stars.enter.AppendsInLine := by
    simp [EnterRules.AppendsInLine, stars, Text.IsOneLine]
  obtain ⟨_, _, _, _, resolved, answer, _, _, hresolve, hcustomize, _, _, hcount, _⟩ :=
    enter_splits_line stars .standard (fun _ => none) .both (by decide) ['é', '\r', '\n', ' ', 'a']
      ['b'] htext (by simp [InsideEnding]) happend
  obtain rfl := Except.ok.inj hresolve
  exact ⟨answer, hcustomize, hcount⟩

end Assistant

end Keystroke
