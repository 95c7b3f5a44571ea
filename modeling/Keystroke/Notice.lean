import Keystroke.Enter.Action
import Keystroke.AutoClose

namespace Keystroke

inductive Severity where
  | warning
  | debug
  | trace
  deriving DecidableEq, Repr

inductive Notice where
  | bracketSkipped (e : EmptyDelimiter)
  /-- A pattern of the rule with an index in the configured list is invalid. -/
  | ruleSkipped (index : Nat) (e : InvalidPattern)
  | pairSkipped (e : EmptyDelimiter)
  | heuristicSkipped (pair : BracketPair) (e : InvalidPattern)
  | rulesReady (count : Nat)
  | pairsReady (count : Nat)
  /-- The search for a pattern took too many steps. -/
  | searchAborted (source : Text)
  | ruleMatched (action : EnterAction)
  | betweenBrackets
  | afterOpening
  | openingTyped (typed : Text) (offset : Nat) (decision : CloseDecision)
  | steppedOver (typed : Text) (offset : Nat)
  | pairDeleted (start : Nat)
  | enterResolved (action : IndentAction)
  deriving DecidableEq

namespace Notice

def severity : Notice → Severity
  | bracketSkipped _ | ruleSkipped _ _ | pairSkipped _ | heuristicSkipped _ _
  | searchAborted _ => .warning
  | rulesReady _ | pairsReady _ => .debug
  | _ => .trace

def source : Notice → String
  | bracketSkipped _ | ruleSkipped _ _ | pairSkipped _ | rulesReady _ | pairsReady _ =>
    "language_config::config"
  | searchAborted _ => "language_config::regex"
  | heuristicSkipped _ _ | ruleMatched _ | betweenBrackets | afterOpening =>
    "language_config::on_enter"
  | openingTyped _ _ _ | steppedOver _ _ => "language_config::auto_close"
  | pairDeleted _ | enterResolved _ => "language_config::auto_edit"

def shown (t : Text) : String :=
  String.ofList (Text.quoted t)

def shownOption : Option String → String
  | some s => s!"Some({s})"
  | none => "None"

def shownAction (a : EnterAction) : String :=
  let indent := a.indent.label
  let append := shownOption (a.appendText.map shown)
  let remove := shownOption (a.removeText.map toString)
  s!"EnterAction \x7b indent_action: {indent}, append_text: {append}, remove_text: {remove} \x7d"

def shownDecision : CloseDecision → String
  | .passThrough => "PassThrough"
  | .suppress => "Suppress"
  | .insertWithClose closing =>
    let closing := shown closing
    s!"InsertWithClose({closing})"

def message : Notice → String
  | bracketSkipped e =>
    let reason := e.message
    s!"skipping bracket: {reason}"
  | ruleSkipped index e =>
    let reason := e.message
    s!"skipping onEnterRules[{index}]: {reason}"
  | pairSkipped e =>
    let reason := e.message
    s!"skipping auto-closing pair: {reason}"
  | heuristicSkipped pair e =>
    let opening := shown pair.opening
    let closing := shown pair.closing
    let reason := e.message
    s!"skipping bracket pair BracketPair \x7b open: {opening}, close: {closing} \x7d: {reason}"
  | rulesReady count => s!"enter engine with {count} rules"
  | pairsReady count => s!"auto-close engine with {count} pairs"
  | searchAborted source =>
    let source := String.ofList source
    s!"pattern `{source}` aborted: " ++
      "Error executing regex: Max limit for backtracking count exceeded"
  | ruleMatched a =>
    let action := shownAction a
    s!"rule matched: {action}"
  | betweenBrackets => "caret between brackets"
  | afterOpening => "caret after open bracket"
  | openingTyped typed offset d =>
    let typed := shown typed
    let decision := shownDecision d
    s!"{typed} at {offset}: {decision}"
  | steppedOver typed offset =>
    let typed := shown typed
    s!"{typed} at {offset}: skip over"
  | pairDeleted start => s!"deleting pair at {start}"
  | enterResolved a =>
    let action := a.label
    s!"enter action {action}"

end Notice

/-- A result with the notices that arose on the way to it. -/
structure Logged (α : Type) where
  value : α
  notices : List Notice := []

namespace Logged

instance : Monad Logged where
  pure a := ⟨a, []⟩
  bind x f := ⟨(f x.value).value, x.notices ++ (f x.value).notices⟩

@[simp] theorem value_pure {α : Type} (a : α) : (pure a : Logged α).value = a := rfl

@[simp] theorem notices_pure {α : Type} (a : α) : (pure a : Logged α).notices = [] := rfl

@[simp] theorem value_bind {α β : Type} (x : Logged α) (f : α → Logged β) :
    (x >>= f).value = (f x.value).value := rfl

@[simp] theorem notices_bind {α β : Type} (x : Logged α) (f : α → Logged β) :
    (x >>= f).notices = x.notices ++ (f x.value).notices := rfl

def report (n : Notice) : Logged Unit :=
  ⟨(), [n]⟩

@[simp] theorem notices_report (n : Notice) : (report n).notices = [n] := rfl

/-- Reports each failure and keeps the successes, in order. -/
def keepOk {ε α : Type} (notice : ε → Notice) : List (Except ε α) → Logged (List α)
  | [] => pure []
  | .ok a :: rest => do return a :: (← keepOk notice rest)
  | .error e :: rest => do
    report (notice e)
    keepOk notice rest

end Logged

end Keystroke
