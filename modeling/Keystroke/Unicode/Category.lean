namespace Keystroke.Unicode

inductive Category where
  | lu | ll | lt | lm | lo
  | mn | mc | me
  | nd | nl | no
  | pc | pd | ps | pe | pi | pf | po
  | sm | sc | sk | so
  | zs | zl | zp
  | cc | cf | cs | co | cn
  deriving DecidableEq, Repr

namespace Category

def isLetter : Category → Bool
  | lu | ll | lt | lm | lo => true
  | _ => false

def isMark : Category → Bool
  | mn | mc | me => true
  | _ => false

end Category

/-- Halves the interval `[lo, hi)` of indices until it holds the number of keys that are at
most `k`; `fuel` bounds the number of halvings. -/
def countAtMost {α : Type} (table : Array (Nat × α)) (k : Nat) : (fuel lo hi : Nat) → Nat
  | 0, lo, _ => lo
  | fuel + 1, lo, hi =>
    if lo < hi then
      let mid := (lo + hi) / 2
      match table[mid]? with
      | some (key, _) =>
        if key ≤ k then countAtMost table k fuel (mid + 1) hi else countAtMost table k fuel lo mid
      | none => lo
    else lo

/-- The entry with the greatest key that is at most `k`, in a table of increasing keys. -/
def entryAt? {α : Type} (table : Array (Nat × α)) (k : Nat) : Option (Nat × α) :=
  match countAtMost table k table.size 0 table.size with
  | 0 => none
  | n + 1 => table[n]?

def inRanges (ranges : Array (Nat × Nat)) (k : Nat) : Bool :=
  match entryAt? ranges k with
  | some (_, last) => k ≤ last
  | none => false

end Keystroke.Unicode
