import Keystroke.Text.Basic

namespace Keystroke.Json5

inductive Construct where
  | array | bool | comment | choice | escape | identifier | null | number | object | string | value
  deriving DecidableEq, Repr

def Construct.name : Construct → String
  | array => "array"
  | bool => "bool"
  | comment => "comment"
  | choice => "enum"
  | escape => "escape sequence"
  | identifier => "identifier"
  | null => "null"
  | number => "number"
  | object => "object"
  | string => "string"
  | value => "value"

inductive Wanted where
  | bool | closingBrace | closingBracket | colon | comma | comment | identifier | null | number
  | openingBrace | openingBracket | string | stringOrObject | value
  deriving DecidableEq, Repr

def Wanted.name : Wanted → String
  | bool => "bool"
  | closingBrace => "closing brace"
  | closingBracket => "closing bracket"
  | colon => "colon"
  | comma => "comma"
  | comment => "comment"
  | identifier => "identifier"
  | null => "null"
  | number => "number"
  | openingBrace => "opening brace"
  | openingBracket => "opening bracket"
  | string => "string"
  | stringOrObject => "string or object"
  | value => "value"

inductive Cause where
  | endOfText (c : Construct)
  | expected (w : Wanted)
  | leadingZero
  | invalidFloat
  | overflow
  | lineTerminatorInString
  | invalidEscape
  | unpairedSurrogate (unit : Nat)
  | trailingCharacters
  | missingField (name : String)
  | duplicateField (name : String)
  | unknownVariant (name : Text) (known : List String)
  | invalidLength (found wanted : Nat)
  | negativeSize (n : Int)
  | wideSize (n : Int)
  | fractionalSize (shown : String)
  | noForm (entry : String)
  deriving DecidableEq, Repr

def quotedNames (names : List String) : String :=
  ", ".intercalate (names.map fun name => "`" ++ name ++ "`")

def shownWide (n : Int) : String :=
  let width := if n < 0 then "i128" else "u128"
  s!"integer `{n}` as {width}"

def Cause.message : Cause → String
  | endOfText c =>
    let name := c.name
    s!"EOF parsing {name}"
  | expected w =>
    let name := w.name
    s!"expected {name}"
  | leadingZero => "leading zero"
  | invalidFloat => "invalid float literal"
  | overflow => "overflow parsing number"
  | lineTerminatorInString => "line terminator in string"
  | invalidEscape => "invalid escape sequence"
  | unpairedSurrogate unit =>
    let digits := String.ofList (Nat.toDigits 16 unit)
    s!"unpaired surrogate found: {digits}"
  | trailingCharacters => "trailing characters"
  | missingField name => s!"missing field `{name}`"
  | duplicateField name => s!"duplicate field `{name}`"
  | unknownVariant name known =>
    let name := String.ofList name
    let known := quotedNames known
    s!"unknown variant `{name}`, expected one of {known}"
  | invalidLength found wanted =>
    s!"invalid length {found}, expected a tuple of size {wanted}"
  | negativeSize n => s!"invalid value: integer `{n}`, expected usize"
  | wideSize n =>
    let number := shownWide n
    s!"invalid type: {number}, expected usize"
  | fractionalSize shown => s!"invalid type: floating point `{shown}`, expected usize"
  | noForm entry => s!"data did not match any variant of untagged enum {entry}"

/-- A cause, and how many characters were left where it was noticed, if that is a place in the
text. -/
structure Fault where
  cause : Cause
  left : Option Nat := none
  deriving DecidableEq, Repr

/-- A fault without a place gets the one where `left` characters are left. -/
def Fault.orAt (f : Fault) (left : Nat) : Fault :=
  { f with left := f.left.or (some left) }

/-- A line and a column, both from one; columns count characters. -/
structure Place where
  line : Nat
  column : Nat
  deriving DecidableEq, Repr

def isLineTerminator (c : Char) : Bool :=
  c = '\n' || c = '\r' || c = '\u2028' || c = '\u2029'

/-- The place after some text, which starts at `p`. A carriage return and a line feed end one line
together. -/
def Place.after (p : Place) : Text → Place
  | [] => p
  | '\r' :: '\n' :: t => Place.after ⟨p.line + 1, 1⟩ t
  | c :: t =>
    if isLineTerminator c then Place.after ⟨p.line + 1, 1⟩ t
    else Place.after ⟨p.line, p.column + 1⟩ t

structure Error where
  cause : Cause
  place : Option Place
  deriving DecidableEq, Repr

def Fault.locate (f : Fault) (t : Text) : Error where
  cause := f.cause
  place := f.left.map fun left => Place.after ⟨1, 1⟩ (t.take (t.length - left))

def Error.message (e : Error) : String :=
  let cause := e.cause.message
  match e.place with
  | some ⟨line, column⟩ => s!"{cause} at line {line} column {column}"
  | none => cause

end Keystroke.Json5
