import Mathlib.Data.List.Basic
import Keystroke.Enter.Rules
import Keystroke.Proofs.Matching
import Keystroke.Proofs.Escaping

namespace Keystroke

/-- Whether a character is one of words can be asked of the pattern for a place that is no word
boundary: it is not found around the character alone. -/
theorem isWord_iff_probe (c : Char) :
    ∃ p, Pattern.plain ['\\', 'B'] = .ok p ∧ (Unicode.isWord c ↔ p.search [c] ≠ .found) := by
  refine ⟨⟨['\\', 'B'], .assert .notWordBoundary, 0⟩, rfl, ?_⟩
  rw [ne_eq, Pattern.search_eq_found rfl]
  constructor
  · rintro hword ⟨x, _, y, hc, rfl, hholds⟩
    rw [List.append_nil, eq_comm, List.append_eq_singleton_iff] at hc
    rw [Assertion.holds_notWordBoundary] at hholds
    obtain ⟨rfl, rfl⟩ | ⟨rfl, rfl⟩ := hc
    · simp [hword] at hholds
    · simp [hword] at hholds
  · intro hfound
    by_contra hword
    refine hfound ⟨[], [], [c], rfl, rfl, ?_⟩
    rw [Assertion.holds_notWordBoundary]
    simpa using hword

namespace BracketPair

open Matching
open PlainPattern

/-- The opening text ends a text, blanks aside. Where it begins with a word character, it does not
continue a word. -/
def OpensAtTail (p : BracketPair) (before : Text) : Prop :=
  ∃ x s, before = x ++ p.opening ++ s ∧ (∀ c ∈ s, Unicode.isBlank c) ∧
    (p.opening.head?.any Unicode.isWord → ¬ x.getLast?.any Unicode.isWord)

/-- The closing text begins a text, blanks aside. Where it ends with a word character, no word
continues it. -/
def ClosesAtHead (p : BracketPair) (after : Text) : Prop :=
  ∃ s y, after = s ++ p.closing ++ y ∧ (∀ c ∈ s, Unicode.isBlank c) ∧
    (p.closing.getLast?.any Unicode.isWord → ¬ y.head?.any Unicode.isWord)

/-- A word boundary, if it is asked for. -/
def boundaryIf (b : Bool) : List Node :=
  if b then [.assert .wordBoundary] else []

def literals (t : Text) : List Node :=
  t.map fun c => .one (.single c)

def anyBlanks : Node :=
  .rep 0 none true (.one .blank)

/-- What the pattern of an opening bracket is read as. -/
def openingNode (opening : Text) : Node :=
  .seqOf (boundaryIf (opening.head?.any Unicode.isWord) ++
    (literals opening ++ [anyBlanks, .assert .textEnd]))

/-- What the pattern of a closing bracket is read as. -/
def closingNode (closing : Text) : Node :=
  .seqOf ([.assert .textStart, anyBlanks] ++
    (literals closing ++ boundaryIf (closing.getLast?.any Unicode.isWord)))

theorem isRegular_openingNode (opening : Text) : (openingNode opening).isRegular := by
  unfold openingNode boundaryIf
  split <;> simp [Node.isRegular_seqOf, literals, anyBlanks, Node.isRegular]

theorem isRegular_closingNode (closing : Text) : (closingNode closing).isRegular := by
  unfold closingNode boundaryIf
  split <;> simp [Node.isRegular_seqOf, literals, anyBlanks, Node.isRegular]

theorem reads_boundaryIf (b : Bool) {rest : Text} (hrest : ∀ t, rest ≠ '\x7b' :: t) :
    Reads (if b then ['\\', 'b'] else []) rest (boundaryIf b) := by
  cases b with
  | false => exact Reads.nil rest
  | true => exact reads_wordBoundary hrest

theorem plain_openingPattern {opening : Text} (h : opening ≠ []) :
    Pattern.plain (openingPattern opening) =
      .ok ⟨openingPattern opening, openingNode opening, 0⟩ := by
  have htail : Reads ['\\', 's', '*', '$'] [] [anyBlanks, .assert .textEnd] :=
    (reads_blanks (by simp)).append (reads_textEnd [])
  have hbody := (reads_escape opening _).append htail
  have hreads := (reads_boundaryIf (opening.head?.any Unicode.isWord) fun t => by
    rw [List.append_assoc]
    exact escape_append_ne h (by decide) (by decide) _ t).append hbody
  have hparse := hreads.parse (Node.greatestAgain_of_isRegular (isRegular_openingNode opening))
  rw [← List.append_assoc] at hparse
  simp only [Pattern.plain, openingPattern, hparse]
  rfl

theorem plain_closingPattern {closing : Text} (h : closing ≠ []) :
    Pattern.plain (closingPattern closing) =
      .ok ⟨closingPattern closing, closingNode closing, 0⟩ := by
  have hboundary : Reads (if closing.getLast?.any Unicode.isWord then ['\\', 'b'] else []) [] _ :=
    reads_boundaryIf _ (by simp)
  have hend := (reads_escape closing _).append hboundary
  have hstart : ∀ rest, Reads ['^', '\\', 's', '*'] (escape closing ++ rest)
      [.assert .textStart, anyBlanks] := fun rest =>
    (reads_textStart _).append (reads_blanks (escape_append_ne h (by decide) (by decide) rest))
  have hreads := Reads.append (by rw [List.append_assoc]; exact hstart _) hend
  have hparse := hreads.parse (Node.greatestAgain_of_isRegular (isRegular_closingNode closing))
  rw [← List.append_assoc] at hparse
  simp only [Pattern.plain, closingPattern, hparse]
  rfl

theorem matches_boundaryIf (b : Bool) (x m y : Text) :
    (Node.seqOf (boundaryIf b)).Matches x m y ↔
      m = [] ∧ (b → x.getLast?.any Unicode.isWord ≠ y.head?.any Unicode.isWord) := by
  cases b with
  | false => simp [boundaryIf, Node.seqOf, Node.Matches, nothing]
  | true =>
    simp [boundaryIf, Node.seqOf, Node.Matches, Assertion.holds_wordBoundary]

theorem matches_blanks_textEnd (x m y : Text) :
    (Node.seqOf [anyBlanks, .assert .textEnd]).Matches x m y ↔
      (∀ c ∈ m, Unicode.isBlank c) ∧ y = [] := by
  rw [Node.matches_seqOf_cons]
  constructor
  · rintro ⟨s, _, rfl, hs, rfl, hend⟩
    have hy : y = [] := by simpa [Assertion.holds] using hend
    rw [List.append_nil]
    exact ⟨(Node.matches_star ..).mp hs, hy⟩
  · rintro ⟨hm, rfl⟩
    exact ⟨m, [], by simp, (Node.matches_star ..).mpr hm, rfl, by simp [Assertion.holds]⟩

theorem matches_textStart_blanks (x m y : Text) :
    (Node.seqOf [.assert .textStart, anyBlanks]).Matches x m y ↔
      x = [] ∧ ∀ c ∈ m, Unicode.isBlank c := by
  rw [Node.matches_seqOf_cons]
  constructor
  · rintro ⟨_, s, rfl, ⟨rfl, hstart⟩, hs⟩
    have hx : x = [] := by simpa [Assertion.holds] using hstart
    exact ⟨hx, (Node.matches_star ..).mp hs⟩
  · rintro ⟨rfl, hm⟩
    exact ⟨[], m, rfl, ⟨rfl, rfl⟩, (Node.matches_star ..).mpr hm⟩

theorem matches_openingNode {opening : Text} (h : opening ≠ []) (x m y : Text) :
    (openingNode opening).Matches x m y ↔
      (∃ s, m = opening ++ s ∧ ∀ c ∈ s, Unicode.isBlank c) ∧ y = [] ∧
        (opening.head?.any Unicode.isWord → ¬ x.getLast?.any Unicode.isWord) := by
  have hhead (s : Text) : (opening ++ s).head? = opening.head? := List.head?_append_of_ne_nil _ h
  rw [openingNode, Node.matches_seqOf_append, Node.matches_seqOf_append]
  constructor
  · rintro ⟨_, _, rfl, hboundary, m, s, rfl, hliteral, htail⟩
    obtain ⟨rfl, hword⟩ := (matches_boundaryIf ..).mp hboundary
    obtain rfl := (Node.matches_literal ..).mp hliteral
    obtain ⟨hs, rfl⟩ := (matches_blanks_textEnd ..).mp htail
    refine ⟨⟨s, rfl, hs⟩, rfl, fun hfirst => ?_⟩
    simpa [hhead, hfirst] using hword hfirst
  · rintro ⟨⟨s, rfl, hs⟩, rfl, hword⟩
    refine ⟨[], _, rfl, (matches_boundaryIf ..).mpr ⟨rfl, fun hfirst => ?_⟩, opening, s, rfl,
      (Node.matches_literal ..).mpr rfl, (matches_blanks_textEnd ..).mpr ⟨hs, rfl⟩⟩
    simpa [hhead, hfirst] using hword hfirst

theorem matches_closingNode {closing : Text} (h : closing ≠ []) (x m y : Text) :
    (closingNode closing).Matches x m y ↔
      x = [] ∧ (∃ s, m = s ++ closing ∧ ∀ c ∈ s, Unicode.isBlank c) ∧
        (closing.getLast?.any Unicode.isWord → ¬ y.head?.any Unicode.isWord) := by
  have hlast (s : Text) : (s ++ closing).getLast? = closing.getLast? :=
    List.getLast?_append_of_ne_nil _ h
  rw [closingNode, Node.matches_seqOf_append, Node.matches_seqOf_append]
  constructor
  · rintro ⟨s, _, rfl, htail, m, _, rfl, hliteral, hboundary⟩
    obtain ⟨rfl, hs⟩ := (matches_textStart_blanks ..).mp htail
    obtain rfl := (Node.matches_literal ..).mp hliteral
    obtain ⟨rfl, hword⟩ := (matches_boundaryIf ..).mp hboundary
    refine ⟨rfl, ⟨s, by simp, hs⟩, fun hfirst => ?_⟩
    simpa [hlast, hfirst] using hword hfirst
  · rintro ⟨rfl, ⟨s, rfl, hs⟩, hword⟩
    refine ⟨s, closing, rfl, (matches_textStart_blanks ..).mpr ⟨rfl, hs⟩, closing, [], by simp,
      (Node.matches_literal ..).mpr rfl, (matches_boundaryIf ..).mpr ⟨rfl, fun hfirst => ?_⟩⟩
    simpa [hlast, hfirst] using hword hfirst

/-- The pair with its patterns. -/
def patterns (p : BracketPair) : BracketPatterns where
  opening := ⟨openingPattern p.opening, openingNode p.opening, 0⟩
  closing := ⟨closingPattern p.closing, closingNode p.closing, 0⟩

theorem ofPair_eq (p : BracketPair) : BracketPatterns.ofPair p = .ok p.patterns := by
  simp [BracketPatterns.ofPair, plain_openingPattern p.opening_ne,
    plain_closingPattern p.closing_ne, patterns, pure, Except.pure, bind, Except.bind]

theorem opensAt_iff (p : BracketPair) (before : Text) :
    p.patterns.opensAt before ↔ p.OpensAtTail before := by
  simp only [BracketPatterns.opensAt, decide_eq_true_iff]
  rw [Pattern.search_eq_found (isRegular_openingNode p.opening)]
  simp only [patterns, matches_openingNode p.opening_ne]
  constructor
  · rintro ⟨x, _, _, rfl, ⟨s, rfl, hs⟩, rfl, hword⟩
    exact ⟨x, s, by simp, hs, hword⟩
  · rintro ⟨x, s, rfl, hs, hword⟩
    exact ⟨x, p.opening ++ s, [], by simp, ⟨s, rfl, hs⟩, rfl, hword⟩

theorem closesAt_iff (p : BracketPair) (after : Text) :
    p.patterns.closesAt after ↔ p.ClosesAtHead after := by
  simp only [BracketPatterns.closesAt, decide_eq_true_iff]
  rw [Pattern.search_eq_found (isRegular_closingNode p.closing)]
  simp only [patterns, matches_closingNode p.closing_ne]
  constructor
  · rintro ⟨_, _, y, rfl, rfl, ⟨s, rfl, hs⟩, hword⟩
    exact ⟨s, y, by simp, hs, hword⟩
  · rintro ⟨s, y, rfl, hs, hword⟩
    exact ⟨[], s ++ p.closing, y, by simp, rfl, ⟨s, rfl, hs⟩, hword⟩

theorem OpensAtTail.ne_nil {p : BracketPair} {before : Text} (h : p.OpensAtTail before) :
    before ≠ [] := by
  obtain ⟨x, s, rfl, -⟩ := h
  simp [p.opening_ne]

theorem ClosesAtHead.ne_nil {p : BracketPair} {after : Text} (h : p.ClosesAtHead after) :
    after ≠ [] := by
  obtain ⟨s, y, rfl, -⟩ := h
  simp [p.closing_ne]

end BracketPair

theorem Logged.keepOk_map_ok {ε α β : Type} (notice : ε → Notice) (f : α → β) (l : List α) :
    Logged.keepOk notice (l.map fun a => .ok (f a)) = pure (l.map f) := by
  induction l with
  | nil => rfl
  | cons a l ih =>
    rw [List.map_cons, Logged.keepOk, ih]
    rfl

theorem EnterRule.value_firstFiring_eq_none {previous before after : Text} {rules : List EnterRule}
    (h : ∀ r ∈ rules, (r.fires previous before after).value = false) :
    (EnterRule.firstFiring previous before after rules).value = none := by
  rw [value_firstFiring]
  exact List.find?_eq_none.mpr fun r hr => Bool.eq_false_iff.mp (h r hr)

namespace EnterRules

/-- No pair is skipped, whatever its texts are. -/
theorem ofBrackets_eq (brackets : Option (List BracketPair)) (rules : List EnterRule) :
    ofBrackets brackets rules =
      pure ⟨(brackets.getD BracketPair.standard).map BracketPair.patterns, rules⟩ := by
  simp only [ofBrackets, BracketPair.ofPair_eq, Logged.keepOk_map_ok]
  rfl

/-- That the texts are not empty need not be asked, because no bracket is. -/
theorem between_iff (pairs : List BracketPair) (before after : Text) :
    (before ≠ [] && after ≠ [] && (pairs.map BracketPair.patterns).any
        fun b => b.opensAt before && b.closesAt after) = true ↔
      ∃ p ∈ pairs, p.OpensAtTail before ∧ p.ClosesAtHead after := by
  simp only [Bool.and_eq_true, decide_eq_true_iff, List.any_map, List.any_eq_true,
    Function.comp_apply, BracketPair.opensAt_iff, BracketPair.closesAt_iff]
  constructor
  · rintro ⟨-, h⟩
    exact h
  · rintro ⟨p, hp, hopens, hcloses⟩
    exact ⟨⟨hopens.ne_nil, hcloses.ne_nil⟩, p, hp, hopens, hcloses⟩

theorem afterOpening_iff (pairs : List BracketPair) (before : Text) :
    (before ≠ [] && (pairs.map BracketPair.patterns).any (·.opensAt before)) = true ↔
      ∃ p ∈ pairs, p.OpensAtTail before := by
  simp only [Bool.and_eq_true, decide_eq_true_iff, List.any_map, List.any_eq_true,
    Function.comp_apply, BracketPair.opensAt_iff]
  constructor
  · rintro ⟨-, h⟩
    exact h
  · rintro ⟨p, hp, hopens⟩
    exact ⟨hopens.ne_nil, p, hp, hopens⟩

theorem value_decide_of_no_rule {e : EnterRules} {previous before after : Text}
    (h : ∀ r ∈ e.rules, (r.fires previous before after).value = false) :
    (e.decide previous before after).value = (e.decideBrackets before after).value := by
  simp [decide, EnterRule.value_firstFiring_eq_none h]

/-- No pair of brackets is skipped, and where no rule fires, the action of Enter follows from
where the brackets stand. The characters of words are those for which a pattern of its own, for a
place that is no word boundary, is not found. -/
theorem decide_by_brackets (brackets : Option (List BracketPair)) (rules : List EnterRule)
    {previous before after : Text}
    (hrules : ∀ r ∈ rules, (r.fires previous before after).value = false) :
    let pairs := brackets.getD BracketPair.standard
    let built := ofBrackets brackets rules
    let action := (built.value.decide previous before after).value
    (brackets = none → pairs.map (fun p => (p.opening, p.closing)) =
        [(['('], [')']), (['\x7b'], ['\x7d']), (['['], [']'])]) ∧
      (∀ c, ∃ p, Pattern.plain ['\\', 'B'] = .ok p ∧
        (Unicode.isWord c ↔ p.search [c] ≠ .found)) ∧
      built.notices = [] ∧ pairs.map BracketPatterns.ofPair = built.value.brackets.map .ok ∧
      (action = some { indent := .indentOutdent } ↔
        ∃ p ∈ pairs, p.OpensAtTail before ∧ p.ClosesAtHead after) ∧
      (action = some { indent := .indent } ↔
        (∃ p ∈ pairs, p.OpensAtTail before) ∧
          ¬ ∃ p ∈ pairs, p.OpensAtTail before ∧ p.ClosesAtHead after) ∧
      (action = none ↔ ¬ ∃ p ∈ pairs, p.OpensAtTail before) := by
  intro pairs built action
  have hbuilt : built = pure ⟨pairs.map BracketPair.patterns, rules⟩ := ofBrackets_eq brackets rules
  have haction : action = (built.value.decideBrackets before after).value :=
    value_decide_of_no_rule (by simpa [hbuilt] using hrules)
  have hbetween := between_iff pairs before after
  have hafter := afterOpening_iff pairs before
  have himp : (∃ p ∈ pairs, p.OpensAtTail before ∧ p.ClosesAtHead after) →
      ∃ p ∈ pairs, p.OpensAtTail before := by
    rintro ⟨p, hp, hopens, -⟩
    exact ⟨p, hp, hopens⟩
  refine ⟨?_, isWord_iff_probe, by rw [hbuilt]; rfl, by simp [hbuilt, BracketPair.ofPair_eq], ?_⟩
  · intro hnone
    simp [pairs, hnone, BracketPair.standard]
  rw [haction, hbuilt]
  -- From here on the two conditions are looked at from outside only.
  generalize (∃ p ∈ pairs, p.OpensAtTail before ∧ p.ClosesAtHead after) = B at hbetween himp ⊢
  generalize (∃ p ∈ pairs, p.OpensAtTail before) = A at hafter himp ⊢
  unfold decideBrackets
  split
  next hcond =>
    have hB : B := hbetween.mp hcond
    simp [hB, himp hB]
  next hcond =>
    have hB : ¬ B := fun hB => hcond (hbetween.mpr hB)
    split
    next hcond =>
      have hA : A := hafter.mp hcond
      simp [hA, hB]
    next hcond =>
      have hA : ¬ A := fun hA => hcond (hafter.mpr hA)
      simp [hA, hB]

/-- A caret between two words that are brackets, below a rule for another text. -/
theorem decide_by_brackets_words :
    let words : BracketPair := { opening := ['d', 'o'], closing := ['o', 'd'] }
    let other : EnterRule :=
      { before := ⟨['#'], .one (.single '#'), 0⟩, action := { indent := .outdent } }
    ((ofBrackets (some [words]) [other]).value.decide [] ['x', ' ', 'd', 'o', ' ']
      [' ', 'o', 'd']).value = some { indent := .indentOutdent } := by
  intro words other
  have hother : ∀ r ∈ [other],
      (r.fires [] ['x', ' ', 'd', 'o', ' '] [' ', 'o', 'd']).value = false := by decide +kernel
  obtain ⟨-, -, -, -, hbetween, -⟩ := decide_by_brackets (some [words]) [other] hother
  have hblank : ∀ c ∈ [' '], Unicode.isBlank c := by
    intro c hc
    rw [List.mem_singleton.mp hc]
    rfl
  have hopens : words.OpensAtTail ['x', ' ', 'd', 'o', ' '] :=
    ⟨['x', ' '], [' '], rfl, hblank, by decide +kernel⟩
  have hcloses : words.ClosesAtHead [' ', 'o', 'd'] := ⟨[' '], [], rfl, hblank, by simp⟩
  exact hbetween.mpr ⟨words, List.mem_singleton_self words, hopens, hcloses⟩

end EnterRules

end Keystroke
