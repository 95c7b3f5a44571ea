namespace Keystroke

structure Decimal where
  negative : Bool
  digits : Nat
  exponent : Int
  deriving DecidableEq, Repr

inductive Binary where
  | finite (significand : Nat) (exponent : Int)
  | infinite
  deriving DecidableEq, Repr

namespace Binary

def leastExponent : Int := -1074

def greatestExponent : Int := 971

/-- The integer nearest to a fraction, the even one when two are equally near. -/
def nearest (num den : Nat) : Nat :=
  let q := num / den
  let r := num % den
  if 2 * r < den then q
  else if den < 2 * r then q + 1
  else if q % 2 = 0 then q else q + 1

def scale (base num den : Nat) (e : Int) : Nat × Nat :=
  if 0 ≤ e then (num * Nat.pow base e.toNat, den) else (num, den * Nat.pow base (-e).toNat)

/-- The binary number nearest to a positive fraction. -/
def ofFraction (num den : Nat) : Binary :=
  let guess : Int := (num.log2 : Int) - den.log2 - 52
  let (n, d) := scale 2 num den (-guess)
  -- the guess may be one too large, but not too small
  let e := max leastExponent (if n < d * Nat.pow 2 52 then guess - 1 else guess)
  let (n, d) := scale 2 num den (-e)
  let m := nearest n d
  let (m, e) := if m = Nat.pow 2 53 then (Nat.pow 2 52, e + 1) else (m, e)
  if greatestExponent < e then infinite else finite m e

def ofDecimal (d : Decimal) : Binary :=
  let size : Int := (Nat.toDigits 10 d.digits).length + d.exponent
  if d.digits = 0 ∨ size < -330 then finite 0 leastExponent
  else if 330 < size then infinite
  else
    let (n, m) := scale 10 d.digits 1 d.exponent
    ofFraction n m

/-- Whether `count * 10 ^ place` is nearer to a number than to its neighbours, or as near and the
significand is even. The neighbour below a power of two is half as far away as the one above. -/
def covers (significand : Nat) (exponent : Int) (count : Nat) (place : Int) : Bool :=
  let (n, d) := scale 10 count 1 place
  -- the fraction in units of a quarter of the last binary place
  let (n, d) := scale 2 n d (2 - exponent)
  let below := if significand = Nat.pow 2 52 ∧ leastExponent < exponent then 1 else 2
  let low := 4 * significand - below
  let high := 4 * significand + 2
  if significand % 2 = 0 then low * d ≤ n && n ≤ high * d
  else low * d < n && n < high * d

/-- The shortest decimal for a number among those with at least `digits` digits: the nearest two of
each length are tried, the nearer one first. The number has `size` digits before its point. -/
def shortestFrom (significand : Nat) (exponent size : Int) : (fuel digits : Nat) → Nat × Int
  | 0, _ => (0, 0)
  | fuel + 1, digits =>
    let place := size - digits
    let (n, d) := scale 2 significand 1 exponent
    let (n, d) := scale 10 n d (-place)
    let below := n / d
    let (first, second) :=
      if 2 * (n % d) ≤ d then (below, below + 1) else (below + 1, below)
    -- a power of ten with one digit more is written with one digit
    let carried (count : Nat) : Nat × Int :=
      if count = Nat.pow 10 digits then (count / 10, place + 1) else (count, place)
    if covers significand exponent first place then carried first
    else if covers significand exponent second place then carried second
    else shortestFrom significand exponent size fuel (digits + 1)

def sizeOf (significand : Nat) (exponent : Int) : Int :=
  let (n, d) := scale 2 significand 1 exponent
  if d ≤ n then (Nat.toDigits 10 (n / d)).length
  else 1 - (Nat.toDigits 10 ((d - 1) / n)).length

def shortest (significand : Nat) (exponent : Int) : Nat × Int :=
  if significand = 0 then (0, 0)
  else shortestFrom significand exponent (sizeOf significand exponent) 20 1

end Binary

def pointed (digits : List Char) (place : Int) : List Char :=
  if 0 ≤ place then digits ++ List.replicate place.toNat '0' ++ ['.', '0']
  else
    let places := (-place).toNat
    let digits := List.replicate (places + 1 - digits.length) '0' ++ digits
    digits.take (digits.length - places) ++ '.' :: digits.drop (digits.length - places)

/-- The shortest text of the binary number nearest to a decimal number, without exponent and with
at least one digit after the point. -/
def Decimal.shown (d : Decimal) : String :=
  let sign := if d.negative then ['-'] else []
  match Binary.ofDecimal d with
  | .infinite => String.ofList (sign ++ ['i', 'n', 'f'])
  | .finite significand exponent =>
    let (digits, place) := Binary.shortest significand exponent
    String.ofList (sign ++ pointed (Nat.toDigits 10 digits) place)

end Keystroke
