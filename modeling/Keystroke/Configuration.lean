import Keystroke.Assistant

namespace Keystroke

inductive PatternEntry where
  | source (pattern : Text)
  | withFlags (pattern flags : Text)
  deriving DecidableEq, Repr

def PatternEntry.compile : PatternEntry → Except InvalidPattern Pattern
  | source pattern => Pattern.rule pattern []
  | withFlags pattern flags => Pattern.rule pattern flags

structure EnterRuleEntry where
  before : PatternEntry
  after : Option PatternEntry := none
  previous : Option PatternEntry := none
  action : EnterAction
  deriving DecidableEq, Repr

def EnterRuleEntry.compile (e : EnterRuleEntry) : Except InvalidPattern EnterRule := do
  return ⟨← e.before.compile, ← e.after.mapM PatternEntry.compile,
    ← e.previous.mapM PatternEntry.compile, e.action⟩

inductive ClosingPairEntry where
  | always (opening closing : Text)
  | conditional (opening closing : Text) (notIn : List Text)
  deriving DecidableEq, Repr

def ClosingPairEntry.build : ClosingPairEntry → Except EmptyDelimiter ClosingPair
  | always opening closing => do
    return ⟨← BracketPair.ofTexts opening closing, []⟩
  | conditional opening closing notIn => do
    return .except (← BracketPair.ofTexts opening closing) notIn

/-- What a configuration says about editing. What is absent has a standard meaning. -/
structure Configuration where
  brackets : Option (List (Text × Text)) := none
  closingPairs : Option (List ClosingPairEntry) := none
  closeBefore : Option Text := none
  enterRules : Option (List EnterRuleEntry) := none
  deriving DecidableEq, Repr

namespace Configuration

def bracketPairs (c : Configuration) : Logged (Option (List BracketPair)) :=
  match c.brackets with
  | none => pure none
  | some brackets => do
    let pairs ← Logged.keepOk Notice.bracketSkipped
      (brackets.map fun (opening, closing) => BracketPair.ofTexts opening closing)
    return some pairs

/-- The rule of an entry, or a notice with its index. -/
def compileRule (entry : EnterRuleEntry) (index : Nat) : Except Notice EnterRule :=
  match entry.compile with
  | .ok rule => .ok rule
  | .error e => .error (.ruleSkipped index e)

def validRules (c : Configuration) : Logged (List EnterRule) :=
  Logged.keepOk id ((c.enterRules.getD []).mapIdx fun index entry => compileRule entry index)

/-- The valid closing pairs; if none are configured, the brackets. -/
def validPairs (c : Configuration) : Logged (List ClosingPair) :=
  match c.closingPairs with
  | some entries => Logged.keepOk Notice.pairSkipped (entries.map ClosingPairEntry.build)
  | none => do
    let brackets ← c.bracketPairs
    return (brackets.getD []).map fun pair => ⟨pair, []⟩

def setUpEnter (c : Configuration) : Logged EnterRules := do
  let brackets ← c.bracketPairs
  let rules ← c.validRules
  let enter ← EnterRules.ofBrackets brackets rules
  Logged.report (.rulesReady enter.rules.length)
  return enter

def setUpPairs (c : Configuration) : Logged ClosingPairs := do
  let pairs ← c.validPairs
  Logged.report (.pairsReady pairs.length)
  return ⟨pairs, c.closeBefore.getD ClosingPairs.standardCloseBefore⟩

/-- Sets up the assistant, the Enter rules first. -/
def assistant (c : Configuration) : Logged Assistant := do
  return ⟨← c.setUpEnter, ← c.setUpPairs⟩

end Configuration

end Keystroke
