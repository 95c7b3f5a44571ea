import Keystroke.Json5.Number
import Keystroke.Text.Quoted

namespace Keystroke.Json5

inductive Value where
  | null
  | bool (b : Bool)
  | number (n : Number)
  | string (t : Text)
  | array (items : List Value)
  | object (members : List (Text × Value))

def startsNumber (c : Char) : Bool :=
  c.isDigit || ['.', '+', '-', 'I', 'N'].contains c

namespace Reader

/-- Reads any value whose arrays and objects do not go deeper than `depth`. -/
def valueWithin : (depth : Nat) → Reader Value
  | 0 => fail (.endOfText .value)
  | depth + 1 => do
    match ← ahead with
    | [] => fail (.endOfText .value)
    | '[' :: _ => return .array (← list (valueWithin depth))
    | '\x7b' :: _ =>
      let members ← object (fun members k => do
        return (k, ← memberValue (valueWithin depth)) :: members) []
      return .object members.reverse
    | 'n' :: _ =>
      word ['n', 'u', 'l', 'l'] .null .null
      return .null
    | c :: _ =>
      if c = '"' ∨ c = '\x27' then return .string (← string)
      else if c = 't' ∨ c = 'f' then return .bool (← bool)
      else if startsNumber c then return .number (← numberAs .ok)
      else failHere (.expected .value)

def anyValue : Reader Value :=
  fun t => valueWithin (t.length + 1) t

def skipValue : Reader Unit := do
  let _ ← anyValue
  return

end Reader

def writtenChar (c : Char) : Text :=
  if c = '"' ∨ c = '\\' then ['\\', c]
  else if c = '\x08' then ['\\', 'b']
  else if c = '\t' then ['\\', 't']
  else if c = '\n' then ['\\', 'n']
  else if c = '\x0c' then ['\\', 'f']
  else if c = '\r' then ['\\', 'r']
  else if c < ' ' then
    let digits := Text.hexadecimal c.toNat
    ['\\', 'u'] ++ List.replicate (4 - digits.length) '0' ++ digits
  else [c]

def writtenString (t : Text) : Text :=
  '"' :: t.flatMap writtenChar ++ ['"']

def signed (negative : Bool) (t : Text) : Text :=
  if negative then '-' :: t else t

def writtenNat (n : Nat) : Text :=
  Nat.toDigits 10 n

def writtenInt (n : Int) : Text :=
  signed (n < 0) (writtenNat n.natAbs)

def Number.written : Number → Text
  | integer n => writtenInt n
  | fraction d => signed d.negative (writtenNat d.digits) ++ 'e' :: writtenInt d.exponent
  | infinity negative => signed negative ['I', 'n', 'f', 'i', 'n', 'i', 't', 'y']
  | notANumber => ['N', 'a', 'N']

def separated : List Text → Text
  | [] => []
  | [t] => t
  | t :: rest => t ++ ',' :: separated rest

mutual

/-- The text of a value, without blanks. -/
def Value.written : Value → Text
  | .null => ['n', 'u', 'l', 'l']
  | .bool true => ['t', 'r', 'u', 'e']
  | .bool false => ['f', 'a', 'l', 's', 'e']
  | .number n => n.written
  | .string t => writtenString t
  | .array items => '[' :: separated (writtenItems items) ++ [']']
  | .object members => '\x7b' :: separated (writtenMembers members) ++ ['\x7d']

def writtenItems : List Value → List Text
  | [] => []
  | v :: rest => v.written :: writtenItems rest

def writtenMembers : List (Text × Value) → List Text
  | [] => []
  | m :: rest => writtenMember m :: writtenMembers rest

def writtenMember : Text × Value → Text
  | (k, v) => writtenString k ++ ':' :: v.written

end

end Keystroke.Json5
