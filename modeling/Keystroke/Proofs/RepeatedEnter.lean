import Keystroke.Proofs.Block
import Keystroke.Proofs.Entries
import Keystroke.Proofs.NormalForm

namespace Keystroke

section Indentation

variable {s : IndentSettings} {t previous after : Text}

theorem IndentSettings.isIndent_normalize (ht : t.IsIndent) : (s.normalize t).IsIndent := by
  rw [normalize_of_isIndent ht]
  exact (s.isNormal_canonical _).isIndent

theorem ResolvedAction.isIndent_newLine {a : ResolvedAction} (hindentation : a.indentation.IsIndent)
    (happend : a.appendText.IsIndent) : (a.newLine s).IsIndent := by
  unfold newLine
  split
  next =>
    have hwhole : Text.IsIndent (s.wholeUnits a.indentation) :=
      IndentSettings.isIndent_wholeUnits hindentation
    intro c hc
    exact IndentSettings.isIndent_normalize (hwhole.append happend) c
      (IndentSettings.mem_outdent hc)
  next => exact IndentSettings.isIndent_normalize (hindentation.append happend)

theorem EnterAction.isIndent_appendText {a : EnterAction} (h : a.appendText = none)
    (indentation : Text) : (a.resolve indentation).appendText.IsIndent := by
  rw [appendText_resolve, h]
  cases a.indent <;> simp [Text.IsIndent, isIndentChar]

/-- Without rules Enter puts spaces and tabs on the new row before the caret, and nothing else. -/
theorem EnterRules.isIndent_enteredText {e : EnterRules} (he : e.rules = []) (s : IndentSettings)
    (previous front back : Text) :
    (enteredText s front
      ((e.decide previous front back).value.map (·.resolve (leadingIndent front)))).IsIndent := by
  have hleading := isIndent_leadingIndent front
  have hbrackets : (e.decide previous front back).value = (e.decideBrackets front back).value :=
    value_decide_of_no_rule (by simp [he])
  cases haction : (e.decide previous front back).value with
  | none => exact hleading
  | some action =>
    have hnone : action.appendText = none := appendText_of_decideBrackets (hbrackets ▸ haction)
    exact ResolvedAction.isIndent_newLine (EnterAction.isIndent_resolve hleading)
      (action.isIndent_appendText hnone _)

/-- A bracket whose opening text is not blank does not open behind spaces and tabs. -/
theorem BracketPair.not_opensAtTail {p : BracketPair} (ht : t.IsIndent)
    (hp : ∃ c ∈ p.opening, Unicode.isBlank c = false) : ¬ p.OpensAtTail t := by
  rintro ⟨x, blanks, rfl, -⟩
  obtain ⟨c, hc, hblank⟩ := hp
  refine (PlainBrackets.ne_of_not_isBlank hblank).2 (ht c ?_)
  exact List.mem_append_left _ (List.mem_append_right _ hc)

theorem BracketPair.standard_opening :
    ∀ p ∈ standard, ∃ c ∈ p.opening, Unicode.isBlank c = false := by
  intro p hp
  simp only [standard, List.mem_cons, List.not_mem_nil, or_false] at hp
  rcases hp with rfl | rfl | rfl <;> exact ⟨_, List.mem_cons_self, rfl⟩

theorem EnterRules.value_decide_behind_indent {pairs : List BracketPair} (ht : t.IsIndent)
    (hpairs : ∀ p ∈ pairs, ∃ c ∈ p.opening, Unicode.isBlank c = false) :
    ((⟨pairs.map BracketPair.patterns, []⟩ : EnterRules).decide previous t after).value = none := by
  have hnone : ¬ ∃ p ∈ pairs, p.OpensAtTail t := by
    rintro ⟨p, hp, hopens⟩
    exact BracketPair.not_opensAtTail ht (hpairs p hp) hopens
  have hbetween : ¬ ∃ p ∈ pairs, p.OpensAtTail t ∧ p.ClosesAtHead after := by
    rintro ⟨p, hp, hopens, -⟩
    exact hnone ⟨p, hp, hopens⟩
  rw [value_decide_of_no_rule (by simp), decideBrackets, if_neg (mt (between_iff ..).mp hbetween),
    if_neg (mt (afterOpening_iff ..).mp hnone)]
  rfl

end Indentation

namespace Configuration

variable {c : Configuration}

theorem opening_of_bracket? {q : Text × Text} {p : BracketPair} (h : bracket? q = some p) :
    isBracket q = true ∧ p.opening = q.1 := by
  have hvalid : isBracket q = true := by
    by_contra hnot
    rw [bracket?_eq_none (Bool.eq_false_iff.mpr hnot)] at h
    cases h
  refine ⟨hvalid, ?_⟩
  unfold bracket? BracketPair.ofTexts at h
  split at h
  next => exact Option.some.inj h ▸ rfl
  next => cases h

theorem exists_brackets (hrules : c.enterRules.getD [] = [])
    (hopening : ∀ p ∈ c.brackets.getD [], isBracket p = true →
      ∃ x ∈ p.1, Unicode.isBlank x = false) :
    ∃ pairs : List BracketPair,
      c.assistant.value.enter = ⟨pairs.map BracketPair.patterns, []⟩ ∧
        ∀ p ∈ pairs, ∃ x ∈ p.opening, Unicode.isBlank x = false := by
  have hnone : c.assistant.value.enter.rules = [] := by
    have hvalid := congrArg EnterRules.rules c.value_setUpEnter
    rwa [value_validRules, hrules] at hvalid
  refine ⟨(c.brackets.map (·.filterMap bracket?)).getD BracketPair.standard, ?_, ?_⟩
  · rw [← c.brackets_assistant, ← hnone]
  · intro p hp
    cases hbrackets : c.brackets with
    | none =>
      rw [hbrackets] at hp
      exact BracketPair.standard_opening p hp
    | some brackets =>
      rw [hbrackets] at hp
      obtain ⟨q, hq, hpair⟩ := List.mem_filterMap.mp hp
      obtain ⟨hvalid, hequal⟩ := opening_of_bracket? hpair
      rw [hequal]
      exact hopening q (by rw [hbrackets]; exact hq) hvalid

end Configuration

namespace Session

/-- The caret stands behind the spaces and tabs `t` at the start of a line, in a document with one
kind of line endings. -/
structure BehindIndent (s : Session) (d : LineEnding) (t before after : Text) : Prop where
  place : s.At before after
  indent : t.IsIndent
  line : ∃ upper back lower, before = d.above upper ++ t ∧ after = d.joined (back :: lower) ∧
    ∀ l ∈ upper ++ (t ++ back) :: lower, Text.IsOneLine l

variable {s : Session} {d : LineEnding} {t before after : Text} {k : Stroke}

theorem BehindIndent.splitLineAt (h : s.BehindIndent d t before after) (hd : d ≠ .absent) :
    ∃ back, (Document.ofText s.text).splitLineAt s.caret = .ok (t, back) := by
  obtain ⟨upper, back, lower, rfl, rfl, hlines⟩ := h.line
  have hsplit := Document.splitLineAt_joined hd hlines
  rw [LineEnding.joined_split, ← h.place.text, ← h.place.caret] at hsplit
  exact ⟨back, hsplit⟩

/-- Where no rule is configured, Enter anywhere leaves the caret behind spaces and tabs. -/
theorem strike_enter (hrules : s.assistant.enter.rules = []) (hd : d ≠ .absent)
    (hs : s.At before after) (htext : d.Delimits (before ++ after))
    (hinside : ¬ InsideEnding before after) (hk : k.typed = d.text) :
    ∃ next t rear, s.strike k = .ok next ∧ next.assistant = s.assistant ∧
      next.BehindIndent d t (before ++ (d.text ++ t)) rear := by
  obtain ⟨lines, hne, hlines, hjoined⟩ := htext
  obtain ⟨upper, front, back, lower, rfl, rfl, rfl⟩ := LineEnding.exists_split hne hjoined hinside
  obtain ⟨previous, answer, hanswer, hcommand⟩ :=
    s.assistant.customize_enter k.settings k.tokens hd hlines
  have happend : s.assistant.enter.AppendsInLine := by simp [EnterRules.AppendsInLine, hrules]
  have hresolved : ∀ a ∈ (s.assistant.enter.decide previous front back).value.map
      (·.resolve (leadingIndent front)), a.appendText.IsOneLine ∧ a.indentation.IsOneLine :=
    fun _ => EnterRules.isOneLine_of_resolved happend
  have hindent := EnterRules.isIndent_enteredText hrules k.settings previous front back
  generalize (s.assistant.enter.decide previous front back).value.map
    (·.resolve (leadingIndent front)) = action at hcommand hresolved hindent
  have hlines' := isOneLine_replaced (s := k.settings) hlines hresolved
  obtain ⟨back', lower', hentered, htail⟩ := enteredLines_eq d k.settings front back lower action
  have hleads := enterCommand_leads d k.settings (d.above upper ++ front)
    (d.joined (back :: lower)) front action
  rw [htail, ← hcommand] at hleads
  rw [hentered, ← List.append_assoc] at hlines'
  rw [← hs.text, ← hs.caret, ← hk] at hanswer
  refine ⟨_, _, _, strike_eq hanswer, rfl, (hs.under k).apply hleads, hindent, upper ++ [front],
    back', lower', ?_, rfl, hlines'⟩
  simp [LineEnding.above]

section Repeated

variable {pairs : List BracketPair}
  (hpairs : ∀ p ∈ pairs, ∃ x ∈ p.opening, Unicode.isBlank x = false)
  (hd : d ≠ .absent)

include hpairs hd

/-- Behind spaces and tabs Enter inserts a line ending and the same spaces and tabs. -/
theorem BehindIndent.customize (hs : s.BehindIndent d t before after)
    (henter : s.assistant.enter = ⟨pairs.map BracketPair.patterns, []⟩)
    (settings : IndentSettings) (tokens : TokenSource) :
    ∃ answer, s.assistant.customize s.text s.caret d.text settings tokens = .ok answer ∧
      answer.value = .insert s.caret (d.text ++ t) := by
  obtain ⟨upper, back, lower, rfl, rfl, hlines⟩ := hs.line
  obtain ⟨previous, answer, hanswer, hcommand⟩ :=
    s.assistant.customize_enter settings tokens hd hlines
  rw [henter, EnterRules.value_decide_behind_indent hs.indent hpairs] at hcommand
  rw [← hs.place.text, ← hs.place.caret] at hanswer
  rw [← hs.place.caret, Option.map_none, enterCommand,
    leadingIndent_of_isIndent hs.indent] at hcommand
  exact ⟨answer, hanswer, hcommand⟩

/-- The row that Enter starts behind spaces and tabs begins with the same spaces and tabs. -/
theorem BehindIndent.strike (hs : s.BehindIndent d t before after)
    (henter : s.assistant.enter = ⟨pairs.map BracketPair.patterns, []⟩) (hk : k.typed = d.text) :
    ∃ next, s.strike k = .ok next ∧ next.assistant = s.assistant ∧
      next.BehindIndent d t (before ++ (d.text ++ t)) after := by
  obtain ⟨answer, hanswer, hcommand⟩ := hs.customize hpairs hd henter k.settings k.tokens
  rw [← hk] at hanswer
  have hleads := Command.leads_insert before after (d.text ++ t)
  rw [← hs.place.caret, ← hcommand] at hleads
  refine ⟨_, strike_eq hanswer, rfl, (hs.place.under k).apply hleads, hs.indent, ?_⟩
  obtain ⟨upper, back, lower, rfl, hafter, hlines⟩ := hs.line
  refine ⟨upper ++ [t], back, lower, by simp [LineEnding.above], hafter, ?_⟩
  have ht : t.IsOneLine := fun c hc =>
    hlines (t ++ back) (by simp) c (List.mem_append_left back hc)
  intro l hl
  simp only [List.append_assoc, List.singleton_append, List.mem_append, List.mem_cons] at hl
  rcases hl with hupper | rfl | hl
  · exact hlines l (List.mem_append_left _ hupper)
  · exact ht
  · exact hlines l (List.mem_append_right _ (List.mem_cons.mpr hl))

theorem BehindIndent.strikes (hs : s.BehindIndent d t before after)
    (henter : s.assistant.enter = ⟨pairs.map BracketPair.patterns, []⟩) {strokes : List Stroke}
    (hstrokes : ∀ k ∈ strokes, k.typed = d.text) :
    ∃ last, strokes.foldlM Session.strike s = .ok last ∧ last.assistant = s.assistant ∧
      last.BehindIndent d t
        (before ++ (List.replicate strokes.length (d.text ++ t)).flatten) after := by
  induction strokes generalizing s before with
  | nil => exact ⟨s, rfl, rfl, by simpa using hs⟩
  | cons k strokes ih =>
    obtain ⟨next, hnext, ha, hbehind⟩ := hs.strike hpairs hd henter (hstrokes k (by simp))
    obtain ⟨last, hlast, ha', hbehind'⟩ :=
      ih hbehind (ha ▸ henter) fun k hk => hstrokes k (List.mem_cons_of_mem _ hk)
    refine ⟨last, ?_, ha'.trans ha, ?_⟩
    · rw [List.foldlM_cons, hnext, ok_bind, hlast]
    · rwa [List.length_cons, List.replicate_succ, List.flatten_cons, ← List.append_assoc]

end Repeated

/-- Without Enter rules, and with no bracket that opens with blanks only, the first Enter leaves the
caret in its line behind spaces and tabs and nothing else. Each further Enter, under whatever
settings, inserts a line ending and these spaces and tabs at the caret, so the text grows by as many
copies of them as Enter is pressed. -/
theorem enter_repeats (c : Configuration) (hrules : c.enterRules.getD [] = [])
    (hopening : ∀ p ∈ c.brackets.getD [], isBracket p = true →
      ∃ x ∈ p.1, Unicode.isBlank x = false)
    (s : Session) (hassistant : s.assistant = c.assistant.value) (d : LineEnding)
    (hd : d ≠ .absent) {before after : Text} (hs : s.At before after)
    (htext : d.Delimits (before ++ after)) (hinside : ¬ InsideEnding before after)
    (settings : IndentSettings) (tokens : TokenSource) :
    ∃ first indentation rear back,
      s.strike ⟨d.text, settings, tokens⟩ = .ok first ∧
      first.At (before ++ (d.text ++ indentation)) rear ∧
      (Document.ofText first.text).splitLineAt first.caret = .ok (indentation, back) ∧
      indentation.IsIndent ∧
      ∀ strokes : List Stroke, (∀ k ∈ strokes, k.typed = d.text) →
        ∃ last, strokes.foldlM strike first = .ok last ∧
          last.At (before ++ (d.text ++ indentation) ++
            (List.replicate strokes.length (d.text ++ indentation)).flatten) rear ∧
          ∀ settings' tokens', ∃ answer,
            last.assistant.customize last.text last.caret d.text settings' tokens' = .ok answer ∧
              answer.value = .insert last.caret (d.text ++ indentation) := by
  obtain ⟨pairs, henter, hpairs⟩ := Configuration.exists_brackets hrules hopening
  rw [← hassistant] at henter
  obtain ⟨first, t, rear, hfirst, ha, hbehind⟩ :=
    strike_enter (k := ⟨d.text, settings, tokens⟩) (by rw [henter]) hd hs htext hinside rfl
  obtain ⟨back, hsplit⟩ := hbehind.splitLineAt hd
  refine ⟨first, t, rear, back, hfirst, hbehind.place, hsplit, hbehind.indent, ?_⟩
  intro strokes hstrokes
  obtain ⟨last, hlast, ha', hbehind'⟩ := hbehind.strikes hpairs hd (ha ▸ henter) hstrokes
  refine ⟨last, hlast, hbehind'.place, ?_⟩
  exact hbehind'.customize hpairs hd (ha' ▸ ha ▸ henter)

/-- Between brackets behind a tab, with two characters to an ending. -/
theorem enter_repeats_brackets :
    let s := between ({} : Configuration).assistant.value ['\t', '('] [')', '\r', '\n']
    let k : Stroke := ⟨['\r', '\n'], .standard, fun _ => none⟩
    ∃ first last indentation rear, s.strike k = .ok first ∧
      first.At (['\t', '('] ++ (k.typed ++ indentation)) rear ∧ indentation.IsIndent ∧
      [k, k].foldlM strike first = .ok last ∧
      last.At (['\t', '('] ++ (k.typed ++ indentation) ++
        (k.typed ++ indentation ++ (k.typed ++ indentation))) rear := by
  intro s k
  have htext : LineEnding.both.Delimits (['\t', '('] ++ [')', '\r', '\n']) := by
    refine ⟨[['\t', '(', ')'], []], by simp, ?_, rfl⟩
    simp [Text.IsOneLine]
  have hopening : ∀ p ∈ ({} : Configuration).brackets.getD [], isBracket p = true →
      ∃ x ∈ p.1, Unicode.isBlank x = false := fun p hp => absurd hp List.not_mem_nil
  obtain ⟨first, indentation, rear, back, hfirst, hat, -, hindent, hrun⟩ :=
    enter_repeats {} rfl hopening s rfl .both (by decide) (at_between _ _ _) htext
      (by simp [InsideEnding]) .standard fun _ => none
  obtain ⟨last, hlast, hat', -⟩ := hrun [k, k] (by simp [k, LineEnding.text])
  refine ⟨first, last, indentation, rear, hfirst, hat, hindent, hlast, ?_⟩
  simpa [List.replicate_succ, k, LineEnding.text] using hat'

end Session

end Keystroke
