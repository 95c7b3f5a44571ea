import Keystroke.Enter.Rules

namespace Keystroke

namespace ClosingPairs

def decide (e : ClosingPairs) (text : Text) (offset : Nat) (typed : Text) (tokens : TokenSource) :
    Except OffsetError (Logged CloseDecision) := do
  let (before, after) ← Text.splitAt text offset
  if typed = [] then return pure .passThrough
  else
    match e.opened? before typed with
    | some p =>
      let decision := e.decideOpening p tokens before typed after
      return ⟨decision, [.openingTyped typed offset decision]⟩
    | none =>
      if e.stepsOver typed after then return ⟨.suppress, [.steppedOver typed offset]⟩
      else return pure .passThrough

def decideDelete (e : ClosingPairs) (text : Text) (offset : Nat) :
    Except OffsetError DeleteDecision := do
  let (before, after) ← Text.splitAt text offset
  match e.pairs.find? (·.surrounds before after) with
  | some p =>
    return .deletePair (offset - Text.width p.opening) (Text.width (p.opening ++ p.closing))
  | none => return .passThrough

end ClosingPairs

/-- An edit: `length` bytes at `offset` are replaced by a text. The caret goes to `caret`, or
after the text when the host shifts it, which comes to the same. -/
structure Command where
  offset : Nat
  length : Nat
  text : Text
  caret : Nat
  shiftsCaret : Bool
  deriving DecidableEq, Repr

namespace Command

def insert (offset : Nat) (text : Text) : Command :=
  ⟨offset, 0, text, offset + Text.width text, true⟩

/-- An insertion with the caret after the first `ahead` bytes from the offset. -/
def insertAround (offset : Nat) (text : Text) (ahead : Nat) : Command :=
  ⟨offset, 0, text, offset + ahead, false⟩

def apply (c : Command) (t : Text) : Text :=
  Text.splice t c.offset c.length c.text

def caretAfter (c : Command) : Nat :=
  if c.shiftsCaret then c.offset + Text.width c.text else c.caret

end Command

structure Assistant where
  enter : EnterRules
  pairs : ClosingPairs

namespace Assistant

/-- The edit for Enter. Where no rule applies the new line keeps the indentation as it is. -/
def pressEnter (a : Assistant) (text : Text) (offset : Nat) (delimiter : Text)
    (s : IndentSettings) : Except OffsetError (Logged Command) := do
  let document := Document.ofText text
  let resolved ← a.enter.resolve document offset
  let indentation ← document.leadingIndentAt offset
  return do
    match ← resolved with
    | some action =>
      Logged.report (.enterResolved action.indent)
      let (inserted, ahead) := action.realize delimiter s
      return .insertAround offset inserted ahead
    | none => return .insert offset (delimiter ++ indentation)

def typedCommand (offset : Nat) (typed : Text) : CloseDecision → Command
  | .passThrough => .insert offset typed
  | .suppress => .insertAround offset [] (Text.width typed)
  | .insertWithClose closing => .insertAround offset (typed ++ closing) (Text.width typed)

def customize (a : Assistant) (text : Text) (offset : Nat) (typed : Text) (s : IndentSettings)
    (tokens : TokenSource) : Except OffsetError (Logged Command) :=
  if isLineDelimiter typed then a.pressEnter text offset typed s
  else do
    let decision ← a.pairs.decide text offset typed tokens
    return return typedCommand offset typed (← decision)

/-- The edit for a backspace, and none at the start of the document. -/
def backspace (a : Assistant) (text : Text) (caret : Nat) :
    Except OffsetError (Logged (Option Command)) := do
  let (before, _) ← Text.splitAt text caret
  let decision ← a.pairs.decideDelete text caret
  match before.getLast?, decision with
  | none, _ => return pure none
  | some _, .deletePair start length =>
    return ⟨some ⟨start, length, [], start, false⟩, [.pairDeleted start]⟩
  | some c, .passThrough =>
    let start := caret - c.utf8Size
    return pure (some ⟨start, c.utf8Size, [], start, true⟩)

end Assistant

end Keystroke
