import Keystroke.Configuration
import Keystroke.Json5.Value

namespace Keystroke

namespace Json5

namespace Reader

variable {α : Type}

/-- Reads the value of a member that may occur once. -/
def once (name : String) (earlier : Option α) (r : Reader α) : Reader (Option α) := do
  if earlier.isSome then fail (.duplicateField name)
  else return some (← memberValue r)

def required (name : String) : Option α → Reader α
  | some a => pure a
  | none => fail (.missingField name)

/-- Reads an object of a known shape: its members change a state, and what the state stands for is
found out while the object is still being read. -/
def record {σ : Type} (step : σ → String → Reader σ) (s : σ) (finish : σ → Reader α) :
    Reader α :=
  braced do
    let s ← allElements '\x7d' .object (fun s => do step s (String.ofList (← key))) s
    finish s

def unknown {σ : Type} (s : σ) : Reader σ := do
  memberValue skipValue
  return s

def twoStrings : Reader (Text × Text) :=
  bracketed do
    if ← more ']' .array true then
      let first ← string
      if ← more ']' .array false then return (first, ← string)
      else fail (.invalidLength 1 2)
    else fail (.invalidLength 0 2)

/-- Reads a name that stands for something: a string, or the key of an object whose only value is
`null`. -/
def choice (names : List String) (ofName? : String → Option α) : Reader α := do
  let named (name : Text) : Reader α :=
    match ofName? (String.ofList name) with
    | some a => pure a
    | none => fail (.unknownVariant name names)
  match ← ahead with
  | [] => fail (.endOfText .choice)
  | '\x7b' :: _ =>
    let a ← within do
      drop 1
      blanks
      let a ← named (← key)
      memberValue do
        blanks
        word ['n', 'u', 'l', 'l'] .null .null
      return a
    closing '\x7d' .object .closingBrace
    return a
  | c :: _ =>
    if c = '"' ∨ c = '\x27' then within do named (← string)
    else failHere (.expected .stringOrObject)

/-- Reads any value and matches it with the forms of an entry. -/
def untagged (entry : String) (match? : Value → Option α) : Reader α := do
  match match? (← anyValue) with
  | some a => return a
  | none => fail (.noForm entry)

end Reader

namespace Value

def string? : Value → Option Text
  | string t => some t
  | _ => none

def strings? : Value → Option (List Text)
  | array items => items.mapM string?
  | _ => none

/-- The value of a member, which may not be repeated. Members without it have the value that is
given, if any. -/
def member? {α : Type} (members : List (Text × Value)) (name : String) (value? : Value → Option α)
    (absent : Option α) : Option α :=
  match members.filter (·.1 = name.toList) with
  | [] => absent
  | [(_, v)] => value? v
  | _ => none

end Value

end Json5

open Json5

/-- A pattern entry is a string, or an object with the pattern and its flags. -/
def PatternEntry.ofValue? : Value → Option PatternEntry
  | .string t => some (.source t)
  | .object members => do
    let pattern ← Value.member? members "pattern" Value.string? none
    let flags ← Value.member? members "flags" Value.string? (some [])
    return .withFlags pattern flags
  | _ => none

/-- A closing pair is an array of two strings, or an object with them and the kinds of scopes. -/
def ClosingPairEntry.ofValue? : Value → Option ClosingPairEntry
  | .array [.string opening, .string closing] => some (.always opening closing)
  | .object members => do
    let opening ← Value.member? members "open" Value.string? none
    let closing ← Value.member? members "close" Value.string? none
    let notIn ← Value.member? members "notIn" Value.strings? (some [])
    return .conditional opening closing notIn
  | _ => none

def PatternEntry.reader : Reader PatternEntry :=
  Reader.untagged "PatternEntry" PatternEntry.ofValue?

def ClosingPairEntry.reader : Reader ClosingPairEntry :=
  Reader.untagged "AutoClosingPairEntry" ClosingPairEntry.ofValue?

def IndentAction.reader : Reader IndentAction :=
  Reader.choice (IndentAction.all.map IndentAction.name) IndentAction.ofName?

structure EnterAction.Members where
  indent : Option IndentAction := none
  appendText : Option (Option Text) := none
  removeText : Option (Option Nat) := none

def EnterAction.reader : Reader EnterAction :=
  let step (m : Members) (name : String) : Reader Members :=
    match name with
    | "indent" => return { m with indent := ← .once name m.indent IndentAction.reader }
    | "appendText" => do
      return { m with appendText := ← .once name m.appendText (.optional .string) }
    | "removeText" => do
      return { m with removeText := ← .once name m.removeText (.optional .size) }
    | _ => .unknown m
  Reader.record step {} fun m => do
    return ⟨← .required "indent" m.indent, m.appendText.getD none, m.removeText.getD none⟩

structure EnterRuleEntry.Members where
  before : Option PatternEntry := none
  after : Option (Option PatternEntry) := none
  previous : Option (Option PatternEntry) := none
  action : Option EnterAction := none

def EnterRuleEntry.reader : Reader EnterRuleEntry :=
  let step (m : Members) (name : String) : Reader Members :=
    match name with
    | "beforeText" => do
      return { m with before := ← .once name m.before PatternEntry.reader }
    | "afterText" => do
      return { m with after := ← .once name m.after (.optional PatternEntry.reader) }
    | "previousLineText" => do
      return { m with previous := ← .once name m.previous (.optional PatternEntry.reader) }
    | "action" => do
      return { m with action := ← .once name m.action EnterAction.reader }
    | _ => .unknown m
  Reader.record step {} fun m => do
    return ⟨← .required "beforeText" m.before, m.after.getD none, m.previous.getD none,
      ← .required "action" m.action⟩

structure Configuration.Members where
  brackets : Option (Option (List (Text × Text))) := none
  closingPairs : Option (Option (List ClosingPairEntry)) := none
  closeBefore : Option (Option Text) := none
  enterRules : Option (Option (List EnterRuleEntry)) := none

def Configuration.reader : Reader Configuration :=
  let step (m : Members) (name : String) : Reader Members :=
    match name with
    | "brackets" => do
      return { m with brackets := ← .once name m.brackets (.optional (.list .twoStrings)) }
    | "autoClosingPairs" => do
      let pairs := Reader.list ClosingPairEntry.reader
      return { m with closingPairs := ← .once name m.closingPairs (.optional pairs) }
    | "autoCloseBefore" => do
      return { m with closeBefore := ← .once name m.closeBefore (.optional .string) }
    | "onEnterRules" => do
      let rules := Reader.list EnterRuleEntry.reader
      return { m with enterRules := ← .once name m.enterRules (.optional rules) }
    | _ => .unknown m
  Reader.record step {} fun m => do
    return ⟨m.brackets.getD none, m.closingPairs.getD none, m.closeBefore.getD none,
      m.enterRules.getD none⟩

structure IndentPreferences.Members where
  tabWidth : Option (Option Nat) := none
  insertSpaces : Option (Option Bool) := none

def IndentPreferences.reader : Reader IndentPreferences :=
  let step (m : Members) (name : String) : Reader Members :=
    match name with
    | "tabWidth" => do
      return { m with tabWidth := ← .once name m.tabWidth (.optional .size) }
    | "insertSpaces" => do
      return { m with insertSpaces := ← .once name m.insertSpaces (.optional .bool) }
    | _ => .unknown m
  Reader.record step {} fun m => return ⟨m.tabWidth.getD none, m.insertSpaces.getD none⟩

inductive LoadError where
  | malformed (e : Json5.Error)
  | notText
  | missingFile
  deriving DecidableEq, Repr

def LoadError.message : LoadError → String
  | malformed e =>
    let e := e.message
    s!"Malformed language configuration: {e}"
  | notText => "I/O error: stream did not contain valid UTF-8"
  | missingFile => "I/O error: No such file or directory (os error 2)"

def Json5.Reader.load {α : Type} (r : Reader α) (t : Text) : Except LoadError α :=
  match r.run t with
  | .ok a => .ok a
  | .error e => .error (.malformed e)

namespace Configuration

def ofText (t : Text) : Except LoadError Configuration :=
  Configuration.reader.load t

def ofBytes (bytes : ByteArray) : Except LoadError Configuration :=
  match String.fromUTF8? bytes with
  | some s => ofText s.toList
  | none => .error .notText

end Configuration

end Keystroke
