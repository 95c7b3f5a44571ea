import Keystroke.Notice

namespace Keystroke

/-- Whether a pattern is found in a text. An aborted search is reported and counts as not found. -/
def Pattern.findIn (p : Pattern) (t : Text) : Logged Bool :=
  match p.search t with
  | .found => pure true
  | .absent => pure false
  | .aborted => ⟨false, [.searchAborted p.source]⟩

/-- A rule: patterns for the text before the caret, the text after it and the line above, and the
action when all that are given are found. -/
structure EnterRule where
  before : Pattern
  after : Option Pattern := none
  previous : Option Pattern := none
  action : EnterAction
  deriving DecidableEq, Repr

namespace EnterRule

def findOptional (p : Option Pattern) (t : Text) : Logged Bool :=
  match p with
  | some p => p.findIn t
  | none => pure true

/-- Whether all patterns of the rule are found. They are searched in this order, up to the first
that is not found. -/
def fires (r : EnterRule) (previous before after : Text) : Logged Bool := do
  if ← r.before.findIn before then
    if ← findOptional r.after after then findOptional r.previous previous
    else return false
  else return false

def ofPatterns (before : Text) (after previous : Option Text) (action : EnterAction) :
    Except InvalidPattern EnterRule := do
  let compile source := Pattern.rule source []
  return ⟨← compile before, ← after.mapM compile, ← previous.mapM compile, action⟩

def firstFiring (previous before after : Text) : List EnterRule → Logged (Option EnterRule)
  | [] => pure none
  | r :: rest => do
    if ← r.fires previous before after then return some r
    else firstFiring previous before after rest

theorem value_firstFiring (previous before after : Text) (rules : List EnterRule) :
    (firstFiring previous before after rules).value =
      rules.find? fun r => (r.fires previous before after).value := by
  induction rules with
  | nil => rfl
  | cons r rules ih =>
    rw [firstFiring, Logged.value_bind, List.find?_cons]
    cases (r.fires previous before after).value with
    | true => rfl
    | false => exact ih

end EnterRule

structure EnterRules where
  brackets : List BracketPatterns
  rules : List EnterRule

namespace EnterRules

/-- The rules with the patterns of the brackets, or of the standard ones if none are given. -/
def ofBrackets (brackets : Option (List BracketPair)) (rules : List EnterRule) :
    Logged EnterRules := do
  let compile (p : BracketPair) : Except Notice BracketPatterns :=
    match BracketPatterns.ofPair p with
    | .ok b => .ok b
    | .error e => .error (.heuristicSkipped p e)
  let brackets ← Logged.keepOk id ((brackets.getD BracketPair.standard).map compile)
  return ⟨brackets, rules⟩

def decideBrackets (e : EnterRules) (before after : Text) : Logged (Option EnterAction) :=
  if before ≠ [] && after ≠ [] &&
      e.brackets.any (fun b => b.opensAt before && b.closesAt after) then
    ⟨some { indent := .indentOutdent }, [.betweenBrackets]⟩
  else if before ≠ [] && e.brackets.any (·.opensAt before) then
    ⟨some { indent := .indent }, [.afterOpening]⟩
  else pure none

def decide (e : EnterRules) (previous before after : Text) : Logged (Option EnterAction) := do
  match ← EnterRule.firstFiring previous before after e.rules with
  | some r =>
    Logged.report (.ruleMatched r.action)
    return some r.action
  | none => e.decideBrackets before after

def resolve (e : EnterRules) (d : Document) (offset : Nat) :
    Except OffsetError (Logged (Option ResolvedAction)) := do
  let row ← d.rowOf offset
  let (before, after) ← d.splitLineAt offset
  let previous := if row = 0 then [] else (d.lineText? (row - 1)).getD []
  return do
    return (← e.decide previous before after).map (·.resolve (leadingIndent before))

end EnterRules

end Keystroke
