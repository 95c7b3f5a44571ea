import Keystroke.Json5.Fault
import Keystroke.Text.Digits
import Keystroke.Unicode.Property

namespace Keystroke.Json5

/-- Takes a value from the start of a text and leaves the rest. -/
def Reader (α : Type) : Type :=
  Text → Except Fault (α × Text)

namespace Reader

variable {α β σ : Type}

instance : Monad Reader where
  pure a := fun t => .ok (a, t)
  bind r f := fun t =>
    match r t with
    | .ok (a, rest) => f a rest
    | .error e => .error e

def left : Reader Text := fun t => .ok (t, t)

def drop (n : Nat) : Reader Unit := fun t => .ok ((), t.drop n)

/-- Fails without saying where. -/
def fail (c : Cause) : Reader α := fun _ => .error ⟨c, none⟩

def failHere (c : Cause) : Reader α := fun t => .error ⟨c, some t.length⟩

/-- Faults that do not say where are placed where this reader started. -/
def within (r : Reader α) : Reader α := fun t =>
  match r t with
  | .ok result => .ok result
  | .error e => .error (e.orAt t.length)

end Reader

/-- Blanks of JSON5: white space, separators and the byte order mark. -/
def isBlank (c : Char) : Bool :=
  ('\t' ≤ c && c ≤ '\r') || c = '\u2028' || c = '\u2029' || c = '\uFEFF' ||
    Unicode.category c == .zs

inductive BlankMode where
  | between
  | lineComment
  | blockComment

def afterBlanks : BlankMode → Text → Except Fault Text
  | .between, [] => .ok []
  | .between, '/' :: '/' :: t => afterBlanks .lineComment t
  | .between, '/' :: '*' :: t => afterBlanks .blockComment t
  | .between, ['/'] => .error ⟨.endOfText .comment, none⟩
  | .between, '/' :: c :: t => .error ⟨.expected .comment, some (c :: t).length⟩
  | .between, c :: t => if isBlank c then afterBlanks .between t else .ok (c :: t)
  | .lineComment, [] => .ok []
  | .lineComment, c :: t =>
    if isLineTerminator c then afterBlanks .between t else afterBlanks .lineComment t
  | .blockComment, [] => .error ⟨.endOfText .comment, none⟩
  | .blockComment, '*' :: '/' :: t => afterBlanks .between t
  | .blockComment, _ :: t => afterBlanks .blockComment t

namespace Reader

def blanks : Reader Unit := fun t =>
  match afterBlanks .between t with
  | .ok rest => .ok ((), rest)
  | .error e => .error e

def ahead : Reader Text := do
  blanks
  left

def word (w : Text) (c : Construct) (expected : Wanted) : Reader Unit :=
  match w with
  | [] => pure ()
  | x :: w => do
    match ← left with
    | [] => fail (.endOfText c)
    | y :: _ =>
      if x = y then
        drop 1
        word w c expected
      else failHere (.expected expected)

end Reader

/-- Reads `count` hexadecimal digits of an escape whose backslash stood where `place` characters
were left, after digits of value `n`. -/
def hexDigits (place : Nat) : (count n : Nat) → Reader Nat
  | 0, n => pure n
  | count + 1, n => do
    match ← Reader.left with
    | [] => Reader.fail (.endOfText .escape)
    | c :: _ =>
      match hexDigit? c with
      | some d =>
        Reader.drop 1
        hexDigits place count (16 * n + d)
      | none => fun _ => .error ⟨.invalidEscape, some place⟩

def isHighSurrogate (n : Nat) : Bool :=
  0xD800 ≤ n && n ≤ 0xDBFF

def isLowSurrogate (n : Nat) : Bool :=
  0xDC00 ≤ n && n ≤ 0xDFFF

/-- Reads the character of a `\u` escape after its `u`. A code unit that is a surrogate must be
followed by another escape that makes a pair with it. -/
def unicodeEscape (place : Nat) : Reader Char := do
  let first ← hexDigits place 4 0
  if isHighSurrogate first || isLowSurrogate first then
    match ← Reader.left with
    | [] => Reader.fail (.endOfText .escape)
    | '\\' :: _ =>
      Reader.drop 1
      match ← Reader.left with
      | [] => Reader.fail (.endOfText .escape)
      | 'u' :: _ =>
        Reader.drop 1
        let second ← hexDigits place 4 0
        if isHighSurrogate first && isLowSurrogate second then
          return Char.ofNat (0x10000 + (first - 0xD800) * 0x400 + (second - 0xDC00))
        else fun _ => .error ⟨.unpairedSurrogate first, some place⟩
      | _ => Reader.failHere .invalidEscape
    | _ => Reader.failHere .invalidEscape
  else return Char.ofNat first

/-- Reads an escape after its backslash: the characters that it stands for, of which an escaped
line terminator has none. -/
def stringEscape (place : Nat) : Reader Text := do
  let plain (c : Char) : Reader Text := do
    Reader.drop 1
    return [c]
  match ← Reader.left with
  | [] => Reader.fail (.endOfText .escape)
  | 'b' :: _ => plain '\x08'
  | 'f' :: _ => plain '\x0c'
  | 'n' :: _ => plain '\n'
  | 'r' :: _ => plain '\r'
  | 't' :: _ => plain '\t'
  | 'v' :: _ => plain '\x0b'
  | 'x' :: _ =>
    Reader.drop 1
    return [Char.ofNat (← hexDigits place 2 0)]
  | 'u' :: _ =>
    Reader.drop 1
    return [← unicodeEscape place]
  | '\r' :: '\n' :: _ =>
    Reader.drop 2
    return []
  | '0' :: c :: _ =>
    if c.isDigit then fun _ => .error ⟨.invalidEscape, some place⟩ else plain '\x00'
  | '0' :: _ => plain '\x00'
  | c :: _ =>
    if c.isDigit then fun _ => .error ⟨.invalidEscape, some place⟩
    else if isLineTerminator c then
      Reader.drop 1
      return []
    else plain c

/-- Reads the characters of a string up to its closing quote. Each step takes a character or more,
so the length of the text bounds the steps. -/
def stringBody (quote : Char) : (steps : Nat) → Reader Text
  | 0 => Reader.fail (.endOfText .string)
  | steps + 1 => do
    match ← Reader.left with
    | [] => Reader.fail (.endOfText .string)
    | c :: rest =>
      if c = quote then
        Reader.drop 1
        return []
      else if c = '\\' then
        Reader.drop 1
        let part ← stringEscape (rest.length + 1)
        return part ++ (← stringBody quote steps)
      else if c = '\n' ∨ c = '\r' then Reader.failHere .lineTerminatorInString
      else
        Reader.drop 1
        return c :: (← stringBody quote steps)

def quotedString : Reader Text := fun t =>
  match t with
  | [] => .error ⟨.endOfText .string, none⟩
  | quote :: rest => stringBody quote t.length rest

def isIdentifierStart (c : Char) : Bool :=
  c = '$' || c = '_' || (Unicode.category c).isLetter || Unicode.category c == .nl

def isIdentifierPart (c : Char) : Bool :=
  isIdentifierStart c || Unicode.isJoinControl c ||
    [.mn, .mc, .nd, .pc].contains (Unicode.category c)

def identifierEscape (isAllowed : Char → Bool) (place : Nat) : Reader Char := do
  match ← Reader.left with
  | [] => Reader.fail (.endOfText .escape)
  | 'u' :: _ =>
    Reader.drop 1
    let c ← unicodeEscape place
    if isAllowed c then return c
    else fun _ => .error ⟨.expected .identifier, some place⟩
  | _ => Reader.failHere .invalidEscape

/-- Reads what follows the first character of an identifier. The end of the text is no end of an
identifier. -/
def identifierRest : (steps : Nat) → Reader Text
  | 0 => Reader.fail (.endOfText .identifier)
  | steps + 1 => do
    match ← Reader.left with
    | [] => Reader.fail (.endOfText .identifier)
    | c :: rest =>
      if c = '\\' then
        Reader.drop 1
        let c ← identifierEscape isIdentifierPart (rest.length + 1)
        return c :: (← identifierRest steps)
      else if isIdentifierPart c then
        Reader.drop 1
        return c :: (← identifierRest steps)
      else return []

def key : Reader Text := fun t =>
  match t with
  | [] => .error ⟨.endOfText .identifier, none⟩
  | c :: rest =>
    if c = '"' ∨ c = '\x27' then quotedString t
    else if c = '\\' then
      (do
        let c ← identifierEscape isIdentifierStart t.length
        return c :: (← identifierRest t.length)) rest
    else if isIdentifierStart c then
      (do return c :: (← identifierRest t.length)) rest
    else .error ⟨.expected .identifier, some t.length⟩

namespace Reader

variable {α σ : Type}

def sign (c : Char) (unfinished : Construct) (expected : Wanted) : Reader Unit := do
  match ← ahead with
  | [] => fail (.endOfText unfinished)
  | d :: _ => if d = c then drop 1 else failHere (.expected expected)

/-- Takes the closing sign of an array or object, before which a comma may stand. -/
def closing (c : Char) (unfinished : Construct) (expected : Wanted) : Reader Unit := do
  match ← ahead with
  | ',' :: _ =>
    drop 1
    sign c unfinished expected
  | _ => sign c unfinished expected

/-- Whether there is another element before the closing sign `c`. A comma must stand before each
element but the first and may stand before the closing sign. -/
def more (c : Char) (unfinished : Construct) (first : Bool) : Reader Bool := do
  match ← ahead with
  | [] => fail (.endOfText unfinished)
  | d :: _ =>
    if d = c then return false
    else if first then return true
    else if d = ',' then
      drop 1
      match ← ahead with
      | [] => fail (.endOfText unfinished)
      | d :: _ => return d ≠ c
    else failHere (.expected .comma)

/-- Reads elements up to the closing sign `c`, each of which changes a state. Each step takes a
character or more, so the length of the text bounds the steps. -/
def elements (c : Char) (unfinished : Construct) (step : σ → Reader σ) :
    (steps : Nat) → (first : Bool) → σ → Reader σ
  | 0, _, _ => fail (.endOfText unfinished)
  | steps + 1, first, s => do
    if ← more c unfinished first then
      elements c unfinished step steps false (← step s)
    else return s

def allElements (c : Char) (unfinished : Construct) (step : σ → Reader σ) (s : σ) : Reader σ :=
  fun t => elements c unfinished step (t.length + 1) true s t

def bracketed (body : Reader α) : Reader α := do
  match ← ahead with
  | [] => fail (.endOfText .array)
  | '[' :: _ =>
    let a ← within do
      drop 1
      body
    closing ']' .array .closingBracket
    return a
  | _ => failHere (.expected .openingBracket)

def braced (body : Reader α) : Reader α := do
  match ← ahead with
  | [] => fail (.endOfText .object)
  | '\x7b' :: _ =>
    let a ← within do
      drop 1
      body
    closing '\x7d' .object .closingBrace
    return a
  | _ => failHere (.expected .openingBrace)

def list (element : Reader α) : Reader (List α) := do
  let reversed ← bracketed (allElements ']' .array (fun l => do return (← element) :: l) [])
  return reversed.reverse

def memberValue (r : Reader α) : Reader α := do
  sign ':' .object .colon
  r

/-- Reads an object: each member changes a state, by a step that is given its key and reads on
from the colon. -/
def object (step : σ → Text → Reader σ) (s : σ) : Reader σ :=
  braced (allElements '\x7d' .object (fun s => do step s (← key)) s)

/-- Reads a value that may be `null`: only that value may start with an `n`. -/
def optional (r : Reader α) : Reader (Option α) := do
  match ← ahead with
  | [] => fail (.endOfText .value)
  | 'n' :: _ =>
    word ['n', 'u', 'l', 'l'] .null .null
    return none
  | _ => within do return some (← r)

def string : Reader Text := do
  match ← ahead with
  | [] => fail (.endOfText .string)
  | c :: _ => if c = '"' ∨ c = '\x27' then quotedString else failHere (.expected .string)

def bool : Reader Bool := do
  match ← ahead with
  | [] => fail (.endOfText .bool)
  | 't' :: _ =>
    word ['t', 'r', 'u', 'e'] .bool .bool
    return true
  | 'f' :: _ =>
    word ['f', 'a', 'l', 's', 'e'] .bool .bool
    return false
  | _ => failHere (.expected .bool)

def run (r : Reader α) (t : Text) : Except Error α :=
  let whole : Reader α := do
    let a ← r
    match ← ahead with
    | [] => return a
    | _ => failHere .trailingCharacters
  match whole t with
  | .ok (a, _) => .ok a
  | .error e => .error (e.locate t)

end Reader

end Keystroke.Json5
