import Keystroke.Pattern.Image

namespace Keystroke

/-- Where the groups of a pattern begin and end: group `x` begins at entry `2 * x` and ends at
entry `2 * x + 1`, as far as it has been matched. -/
abbrev Slots := Array (Option Nat)

namespace Slots

def ofCount (count : Nat) : Slots :=
  Array.replicate (2 * (count + 1)) none

def begins (g : Slots) (x i : Nat) : Slots :=
  g.setIfInBounds (2 * x) (some i)

def ends (g : Slots) (x i : Nat) : Slots :=
  g.setIfInBounds (2 * x + 1) (some i)

def text? (g : Slots) (t : Array Char) (x : Nat) : Option Text := do
  let first ← (← g[2 * x]?)
  let last ← (← g[2 * x + 1]?)
  if first ≤ last then some (t.extract first last).toList else none

end Slots

/-- How an attempt to match ends; `steps` is what is left of the budget. -/
inductive Answer where
  | matched (groups : Slots) (place : Nat) (steps : Nat)
  | failed (steps : Nat)
  | aborted

namespace Answer

def fail : Nat → Answer
  | 0 => aborted
  | steps + 1 => failed steps

def orElse (a : Answer) (next : Nat → Answer) : Answer :=
  match a with
  | failed steps => next steps
  | a => a

end Answer

abbrev Continuation := Slots → Nat → Nat → Answer

namespace Node

def runTimes (body : Slots → Nat → Nat → Continuation → Answer) :
    Nat → Slots → Nat → Nat → Continuation → Answer
  | 0, g, i, n, k => k g i n
  | m + 1, g, i, n, k => body g i n fun g i n => runTimes body m g i n k

def runUpTo (body : Slots → Nat → Nat → Continuation → Answer) (greedy : Bool) :
    Nat → Slots → Nat → Nat → Continuation → Answer
  | 0, g, i, n, k => k g i n
  | m + 1, g, i, n, k =>
    let again n := body g i n fun g i n => runUpTo body greedy m g i n k
    if greedy then (again n).orElse (k g i) else (k g i n).orElse again

/-- Matches `body` any number of times. A time that takes no character ends the repetition if
`idle` allows it and is a failure otherwise. As many times are enough as there are characters left,
which `room` counts. -/
def runMany (body : Slots → Nat → Nat → Continuation → Answer) (idle greedy : Bool) :
    (room : Nat) → Slots → Nat → Nat → Continuation → Answer
  | 0, g, i, n, k => k g i n
  | room + 1, g, i, n, k =>
    let again n := body g i n fun g j n =>
      if j = i then if idle then k g j n else .fail n
      else runMany body idle greedy room g j n k
    if greedy then (again n).orElse (k g i) else (k g i n).orElse again

def occursFolded (part : Text) : Text → Bool
  | [] => part.isEmpty
  | c :: t => (part.map Unicode.fold).isPrefixOf ((c :: t).map Unicode.fold) || occursFolded part t

/-- Where the text of a group ends that is asked for again at position `i`. When case is ignored,
the place must hold a text of as many bytes; in ASCII it must be the same but for case, and else
it must contain the text but for case. -/
def matchAgain (t : Array Char) (i : Nat) (part : Text) (ignoreCase : Bool) : Option Nat :=
  if (t.extract i (i + part.length)).toList = part then some (i + part.length)
  else if ignoreCase then
    let (span, _) := Text.cut (t.extract i (i + Text.width part)).toList (Text.width part)
    if Text.width span ≠ Text.width part then none
    else if span.all (·.toNat < 128) then
      if span.map Char.toLower = part.map Char.toLower then some (i + span.length) else none
    else if occursFolded part span then some (i + span.length) else none
  else none

/-- Matches a node at position `i` with `n` steps left, and then what follows it. `idle` tells
what becomes of a time in a repetition that takes no character. -/
def run (t : Array Char) (idle : Bool) : Node → Slots → Nat → Nat → Continuation → Answer
  | empty, g, i, n, k => k g i n
  | one s, g, i, n, k => if t[i]?.any s.contains then k g (i + 1) n else .fail n
  | assert a, g, i, n, k => if a.holds t i then k g i n else .fail n
  | seq a b, g, i, n, k => a.run t idle g i n fun g i n => b.run t idle g i n k
  | alt a b, g, i, n, k => (a.run t idle g i n k).orElse fun n => b.run t idle g i n k
  | rep least most greedy body, g, i, n, k =>
    runTimes (body.run t idle) least g i n fun g i n =>
      match most with
      | some m => runUpTo (body.run t idle) greedy (m - least) g i n k
      | none => runMany (body.run t idle) idle greedy (t.size + 1 - i) g i n k
  | capture x body, g, i, n, k =>
    body.run t idle (g.begins x i) i n fun g j n => k (g.ends x j) j n
  | atomic body, g, i, n, k =>
    if body.isRegular && !body.startsAt t i then .fail n
    else
      match body.run t body.isRegular g i n .matched with
      | .matched g j n => k g j n
      | a => a
  | lookAhead negated body, g, i, n, k =>
    if body.isRegular then if body.startsAt t i != negated then k g i n else .fail n
    else
      match body.run t false g i n .matched, negated with
      | .matched g _ n, false => k g i n
      | .matched _ _ n, true => .fail n
      | .failed n, true => k g i n
      | a, _ => a
  | lookBehind negated width body, g, i, n, k =>
    if i < width then if negated then k g i n else .fail n
    else if body.isRegular then
      if body.startsAt t (i - width) != negated then k g i n else .fail n
    else
      match body.run t false g (i - width) n .matched, negated with
      | .matched g _ n, false => k g i n
      | .matched _ _ n, true => .fail n
      | .failed n, true => k g i n
      | a, _ => a
  | again x ignoreCase, g, i, n, k =>
    match (g.text? t x).bind fun part => matchAgain t i part ignoreCase with
    | some j => k g j n
    | none => .fail n

def runFrom (n : Node) (t : Array Char) (groups : Slots) : List Nat → Nat → Answer
  | [], steps => .failed steps
  | i :: rest, steps => (n.run t false groups i steps .matched).orElse (runFrom n t groups rest)

end Node

end Keystroke
