import Keystroke.Unicode.CaseFold
import Keystroke.Unicode.Property
import Keystroke.Unicode.Script
import Keystroke.Text.Basic

namespace Keystroke

inductive CharSet where
  | empty
  | single (c : Char)
  | range (first last : Char)
  | category (g : Unicode.Category)
  | script (s : Unicode.Script)
  | listed (ranges : Array (Nat × Nat))
  | blank
  | word
  | alphabetic
  | union (a b : CharSet)
  | inter (a b : CharSet)
  | diff (a b : CharSet)
  | symmDiff (a b : CharSet)
  | compl (a : CharSet)
  /-- All characters that differ only in case from a member. -/
  | caseClosure (a : CharSet)
  deriving DecidableEq, Repr

namespace CharSet

def contains : CharSet → Char → Bool
  | empty, _ => false
  | single d, c => c == d
  | range first last, c => first ≤ c && c ≤ last
  | category g, c => Unicode.category c == g
  | script s, c => Unicode.script? c == some s
  | listed ranges, c => Unicode.inRanges ranges c.toNat
  | blank, c => Unicode.isBlank c
  | word, c => Unicode.isWord c
  | alphabetic, c => Unicode.isAlphabetic c
  | union a b, c => a.contains c || b.contains c
  | inter a b, c => a.contains c && b.contains c
  | diff a b, c => a.contains c && !b.contains c
  | symmDiff a b, c => a.contains c != b.contains c
  | compl a, c => !a.contains c
  | caseClosure a, c => (Unicode.orbit c).any a.contains

def all : CharSet := compl empty

def digit : CharSet := category .nd

def hexDigit : CharSet := union (range '0' '9') (union (range 'a' 'f') (range 'A' 'F'))

def notLineFeed : CharSet := compl (single '\n')

def ofList (l : List CharSet) : CharSet :=
  l.foldr union empty

def ofCategories (l : List Unicode.Category) : CharSet :=
  ofList (l.map category)

def ofRanges (l : List (Char × Char)) : CharSet :=
  ofList (l.map fun (first, last) => range first last)

def foldedIf (fold : Bool) (s : CharSet) : CharSet :=
  if fold then caseClosure s else s

def negatedIf (negated : Bool) (s : CharSet) : CharSet :=
  if negated then compl s else s

end CharSet

end Keystroke
