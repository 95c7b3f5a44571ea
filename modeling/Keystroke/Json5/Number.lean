import Keystroke.Decimal.Binary
import Keystroke.Json5.Reader

namespace Keystroke.Json5

inductive Number where
  | integer (n : Int)
  | fraction (d : Decimal)
  | infinity (negative : Bool)
  | notANumber
  deriving DecidableEq, Repr

namespace Number

/-- The number that digits of some value stand for, if it is an integer of 128 bits, with or without
sign. -/
def ofMagnitude (negative : Bool) (n : Nat) : Option Number :=
  if negative then if n ≤ Nat.pow 2 127 then some (integer (-n)) else none
  else if n < Nat.pow 2 128 then some (integer n) else none

def shown : Number → String
  | integer n => toString n
  | fraction d => d.shown
  | infinity negative => if negative then "-inf" else "inf"
  | notANumber => "NaN"

def size : Number → Except Cause Nat
  | integer n =>
    if 0 ≤ n then if n < Int.pow 2 64 then .ok n.toNat else .error (.wideSize n)
    else if -(Int.pow 2 63) ≤ n then .error (.negativeSize n)
    else .error (.wideSize n)
  | x => .error (.fractionalSize x.shown)

def isDecimalChar (c : Char) : Bool :=
  c.isDigit || ['.', 'e', 'E', '+', '-'].contains c

def exponent? : Text → Option Int
  | [] => some 0
  | e :: t =>
    let (negative, digits) :=
      match t with
      | '-' :: digits => (true, digits)
      | '+' :: digits => (false, digits)
      | digits => (false, digits)
    if (e = 'e' ∨ e = 'E') ∧ digits ≠ [] ∧ digits.all Char.isDigit then
      some (if negative then -decimalValue digits else decimalValue digits)
    else none

/-- The number that a text without sign stands for: digits with a point in front of, between or
after them, and an exponent. -/
def decimal? (negative : Bool) (t : Text) : Option Number :=
  let (whole, rest) := takeDigits t
  let (places, rest) :=
    match rest with
    | '.' :: rest => takeDigits rest
    | rest => ([], rest)
  let digits := decimalValue (whole ++ places)
  if whole = [] ∧ places = [] then none
  else if t.all Char.isDigit then
    (ofMagnitude negative digits).or (some (fraction ⟨negative, digits, 0⟩))
  else (exponent? rest).map fun e => fraction ⟨negative, digits, e - places.length⟩

end Number

namespace Reader

def hexadecimal (negative : Bool) : Reader Number := do
  let digits := (← left).takeWhile fun c => (hexDigit? c).isSome
  if digits = [] then
    match ← left with
    | [] => fail (.endOfText .number)
    | _ => failHere (.expected .number)
  else
    drop digits.length
    let n := (digits.filterMap hexDigit?).foldl (fun n d => 16 * n + d) 0
    match Number.ofMagnitude negative n with
    | some x => return x
    | none => fail .overflow

/-- Reads a decimal number. All characters that could belong to it are taken first. -/
def decimal (negative : Bool) : Reader Number := do
  let t := (← left).takeWhile Number.isDecimalChar
  drop t.length
  match Number.decimal? negative t with
  | some x => return x
  | none => fail .invalidFloat

def magnitude (negative : Bool) : Reader Number := do
  match ← left with
  | [] => fail (.endOfText .number)
  | 'I' :: _ =>
    word ['I', 'n', 'f', 'i', 'n', 'i', 't', 'y'] .number .number
    return .infinity negative
  | 'N' :: _ =>
    word ['N', 'a', 'N'] .number .number
    return .notANumber
  | '0' :: c :: _ =>
    if c = 'x' ∨ c = 'X' then
      drop 2
      hexadecimal negative
    else if c.isDigit then fail .leadingZero
    else decimal negative
  | c :: _ => if c.isDigit ∨ c = '.' then decimal negative else failHere (.expected .number)

def numberAs {α : Type} (decode : Number → Except Cause α) : Reader α := do
  blanks
  within do
    let number ←
      match ← left with
      | '+' :: _ =>
        drop 1
        magnitude false
      | '-' :: _ =>
        drop 1
        magnitude true
      | _ => magnitude false
    match decode number with
    | .ok a => return a
    | .error c => fail c

def size : Reader Nat :=
  numberAs Number.size

end Reader

end Keystroke.Json5
