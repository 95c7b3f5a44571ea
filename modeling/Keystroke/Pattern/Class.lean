import Keystroke.Pattern.Named

namespace Keystroke

inductive ClassToken where
  /-- A character that was not escaped and may be punctuation. -/
  | plain (c : Char)
  | literal (c : Char)
  | set (s : CharSet)
  deriving DecidableEq, Repr

namespace ClassToken

def plain? : ClassToken → Option Char
  | plain c => some c
  | _ => none

def char? : ClassToken → Option Char
  | plain c | literal c => some c
  | set _ => none

def toSet : ClassToken → CharSet
  | plain c | literal c => .single c
  | set s => s

end ClassToken

inductive SetOperation where
  | intersection
  | difference
  | symmetricDifference

def SetOperation.apply : SetOperation → CharSet → CharSet → CharSet
  | intersection => .inter
  | difference => .diff
  | symmetricDifference => .symmDiff

structure OpenClass where
  negated : Bool
  /-- An operation that waits for its right side. -/
  left : Option (CharSet × SetOperation)
  items : CharSet

namespace OpenClass

def add (o : OpenClass) (s : CharSet) : OpenClass :=
  { o with items := .union o.items s }

def value (ignoreCase : Bool) (o : OpenClass) : CharSet :=
  match o.left with
  | some (l, op) => op.apply (l.foldedIf ignoreCase) (o.items.foldedIf ignoreCase)
  | none => o.items

def operate (ignoreCase : Bool) (op : SetOperation) (o : OpenClass) : OpenClass :=
  { o with left := some (o.value ignoreCase, op), items := .empty }

def close (ignoreCase : Bool) (o : OpenClass) : CharSet :=
  ((o.value ignoreCase).foldedIf ignoreCase).negatedIf o.negated

end OpenClass

namespace ClassToken

def leadingHyphens : List ClassToken → CharSet × List ClassToken
  | plain '-' :: rest =>
    let (s, rest) := leadingHyphens rest
    (.union (.single '-') s, rest)
  | tokens => (.empty, tokens)

/-- Begins a class after its opening bracket: a circumflex negates it, and a closing bracket in
the first place stands for itself. -/
def openClass (tokens : List ClassToken) : OpenClass × List ClassToken :=
  let (negated, tokens) :=
    match tokens with
    | plain '^' :: rest => (true, rest)
    | _ => (false, tokens)
  match tokens with
  | plain ']' :: rest => (⟨negated, none, .single ']'⟩, rest)
  | _ =>
    let (s, rest) := leadingHyphens tokens
    (⟨negated, none, s⟩, rest)

/-- Reads an ASCII class such as `:alpha:]` after its opening bracket. -/
def asciiClass? (tokens : List ClassToken) : Option (CharSet × List ClassToken) :=
  match tokens with
  | plain ':' :: rest =>
    let (negated, rest) :=
      match rest with
      | plain '^' :: rest => (true, rest)
      | _ => (false, rest)
    let name := rest.takeWhile (· ≠ plain ':')
    match rest.drop name.length with
    | plain ':' :: plain ']' :: rest => do
      let name ← name.mapM plain?
      return ((← CharSet.ascii? name).negatedIf negated, rest)
    | _ => none
  | _ => none

def item? : List ClassToken → Option (CharSet × List ClassToken)
  | [] => none
  | first :: plain '-' :: last :: rest =>
    if last = plain ']' ∨ last = plain '-' then some (first.toSet, plain '-' :: last :: rest)
    else do
      let a ← first.char?
      let b ← last.char?
      if a ≤ b then return (.range a b, rest) else none
  | first :: rest => some (first.toSet, rest)

/-- Reads a class up to its closing bracket. Each step takes a token or more, so the number of
tokens bounds the steps. -/
def readClass (ignoreCase : Bool) :
    (steps : Nat) → OpenClass → List ClassToken → Option (CharSet × List ClassToken)
  | 0, _, _ => none
  | steps + 1, o, tokens =>
    match tokens with
    | plain ']' :: rest => some (o.close ignoreCase, rest)
    | plain '[' :: rest =>
      match asciiClass? rest with
      | some (s, rest) => readClass ignoreCase steps (o.add s) rest
      | none => do
        let (nested, rest) := openClass rest
        let (s, rest) ← readClass ignoreCase steps nested rest
        readClass ignoreCase steps (o.add s) rest
    | plain '&' :: plain '&' :: rest =>
      readClass ignoreCase steps (o.operate ignoreCase .intersection) rest
    | plain '-' :: plain '-' :: rest =>
      readClass ignoreCase steps (o.operate ignoreCase .difference) rest
    | plain '~' :: plain '~' :: rest =>
      readClass ignoreCase steps (o.operate ignoreCase .symmetricDifference) rest
    | _ => do
      let (s, rest) ← item? tokens
      readClass ignoreCase steps (o.add s) rest

def class? (ignoreCase : Bool) (tokens : List ClassToken) :
    Option (CharSet × List ClassToken) :=
  let (o, rest) := openClass tokens
  readClass ignoreCase (tokens.length + 1) o rest

end ClassToken

end Keystroke
