import Keystroke.Pattern.Basic

namespace Keystroke

/-- A set of positions, as a strictly decreasing list. -/
abbrev Places := List Nat

namespace Places

def union : Places → Places → Places
  | [], bs => bs
  | a :: as, bs => insertAll a (union as) bs
where
  insertAll (a : Nat) (next : Places → Places) : Places → Places
    | [] => a :: next []
    | b :: bs =>
      if a < b then b :: insertAll a next bs
      else if a = b then a :: next bs
      else a :: next (b :: bs)

def minus : Places → Places → Places
  | [], _ => []
  | a :: as, bs =>
    let bs := bs.dropWhile (a < ·)
    if bs.head? = some a then minus as bs else a :: minus as bs

end Places

namespace Node

def power (step : Places → Places) : Nat → Places → Places
  | 0, s => s
  | n + 1, s =>
    let s' := step s
    if s' = s then s else power step n s'

/-- All places reached in at most `n` steps: `seen` are those reached so far and `fresh` those
reached by the last step. -/
def reach (step : Places → Places) : Nat → (seen fresh : Places) → Places
  | 0, seen, _ => seen
  | n + 1, seen, fresh =>
    let next := (step fresh).minus seen
    if next = [] then seen else reach step n (next.union seen) next

/-- The places where a match can end that starts in one of the given places. Each place is visited
once per part of the pattern, however parts are nested. -/
def image (t : Array Char) : Node → Places → Places
  | empty, s => s
  | one set, s => s.filterMap fun i => if t[i]?.any set.contains then some (i + 1) else none
  | assert a, s => s.filter fun i => a.holds t i
  | seq a b, s => b.image t (a.image t s)
  | alt a b, s => (a.image t s).union (b.image t s)
  | rep least most _ body, s =>
    let start := power (body.image t) least s
    reach (body.image t) (match most with | none => t.size + 1 | some m => m - least) start start
  | _, _ => []

def startsAt (n : Node) (t : Array Char) (i : Nat) : Bool :=
  n.image t [i] ≠ []

def everywhere (t : Array Char) : Places :=
  (List.range (t.size + 1)).reverse

def occurs (n : Node) (t : Array Char) : Bool :=
  n.image t (everywhere t) ≠ []

end Node

end Keystroke
