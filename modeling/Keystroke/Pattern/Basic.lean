import Keystroke.Pattern.CharSet

namespace Keystroke

inductive Assertion where
  | textStart
  | textEnd
  | lineStart
  | lineEnd
  | wordBoundary
  | notWordBoundary
  | wordStart
  | wordEnd
  /-- No word character before. -/
  | wordStartHalf
  /-- No word character after. -/
  | wordEndHalf
  deriving DecidableEq, Repr

namespace Assertion

def wordBefore (t : Array Char) (i : Nat) : Bool :=
  match i with
  | 0 => false
  | i + 1 => t[i]?.any Unicode.isWord

def wordAfter (t : Array Char) (i : Nat) : Bool :=
  t[i]?.any Unicode.isWord

def holds (t : Array Char) (i : Nat) : Assertion → Bool
  | textStart => i == 0
  | textEnd => i == t.size
  | lineStart => i == 0 || t[i - 1]? == some '\n'
  | lineEnd => i == t.size || t[i]? == some '\n'
  | wordBoundary => wordBefore t i != wordAfter t i
  | notWordBoundary => wordBefore t i == wordAfter t i
  | wordStart => !wordBefore t i && wordAfter t i
  | wordEnd => wordBefore t i && !wordAfter t i
  | wordStartHalf => !wordBefore t i
  | wordEndHalf => !wordAfter t i

end Assertion

inductive Node where
  | empty
  | one (s : CharSet)
  | assert (a : Assertion)
  | seq (a b : Node)
  | alt (a b : Node)
  | rep (least : Nat) (most : Option Nat) (greedy : Bool) (body : Node)
  | capture (index : Nat) (body : Node)
  | atomic (body : Node)
  | lookAhead (negated : Bool) (body : Node)
  /-- Looks at the `width` characters before. -/
  | lookBehind (negated : Bool) (width : Nat) (body : Node)
  | again (index : Nat) (ignoreCase : Bool)
  deriving DecidableEq, Repr

inductive Interest where
  | all
  | first
  | existence
  deriving DecidableEq, Repr

namespace Node

def seqOf : List Node → Node
  | [] => empty
  | [n] => n
  | n :: rest => seq n (seqOf rest)

def altOf : List Node → Node
  | [] => empty
  | [n] => n
  | n :: rest => alt n (altOf rest)

def literal (t : Text) : Node :=
  seqOf (t.map fun c => one (.single c))

def width? : Node → Option Nat
  | empty => some 0
  | one _ => some 1
  | assert _ => some 0
  | seq a b => do return (← a.width?) + (← b.width?)
  | alt a b => do
    let m ← a.width?
    let n ← b.width?
    if m = n then some m else none
  | rep least most _ body => do
    let n ← body.width?
    if most = some least then some (least * n) else none
  | capture _ body => body.width?
  | atomic body => body.width?
  | lookAhead _ _ => some 0
  | lookBehind _ _ _ => some 0
  | again _ _ => none

def greatestAgain : Node → Nat
  | seq a b | alt a b => max a.greatestAgain b.greatestAgain
  | rep _ _ _ body | capture _ body | atomic body | lookAhead _ body | lookBehind _ _ body =>
    body.greatestAgain
  | again index _ => index
  | empty | one _ | assert _ => 0

def asksFor (x : Nat) : Node → Bool
  | seq a b | alt a b => a.asksFor x || b.asksFor x
  | rep _ _ _ body | capture _ body | atomic body | lookAhead _ body | lookBehind _ _ body =>
    body.asksFor x
  | again y _ => x == y
  | empty | one _ | assert _ => false

def keepGroups (asked : Nat → Bool) : Node → Node
  | seq a b => seq (a.keepGroups asked) (b.keepGroups asked)
  | alt a b => alt (a.keepGroups asked) (b.keepGroups asked)
  | rep least most greedy body => rep least most greedy (body.keepGroups asked)
  | capture x body =>
    if asked x then capture x (body.keepGroups asked) else body.keepGroups asked
  | atomic body => atomic (body.keepGroups asked)
  | lookAhead negated body => lookAhead negated (body.keepGroups asked)
  | lookBehind negated width body => lookBehind negated width (body.keepGroups asked)
  | n => n

/-- Whether a pattern neither looks around, nor remembers a text, nor has atomic groups. Such a
pattern is matched by following sets of positions. -/
def isRegular : Node → Bool
  | empty | one _ | assert _ => true
  | seq a b | alt a b => a.isRegular && b.isRegular
  | rep _ _ _ body => body.isRegular
  | capture _ _ | atomic _ | lookAhead _ _ | lookBehind _ _ _ | again _ _ => false

/-- Looks behind for a node of constant width, or for any of several alternatives that each have
a constant width. -/
def lookBehind? (negated : Bool) (body : Node) : Option Node :=
  match body.width? with
  | some width => some (lookBehind negated width body)
  | none =>
    match body with
    | alt a b => do
      let a ← lookBehind? negated a
      let b ← lookBehind? negated b
      return if negated then seq a b else alt a b
    | _ => none

/-- A positive look-ahead at the very end of a sequence matches as its body does, because nothing
follows it and only the existence of a match counts. -/
def openFinalLookAhead : Node → Node
  | seq a (lookAhead false b) => seq a b
  | seq a b => seq a b.openFinalLookAhead
  | n => n

/-- Tells regular parts whose ways to match do not all matter: they are looked at where only the
existence of a match counts, and matched in one way only where only the first one does. -/
def narrow (w : Interest) (n : Node) : Node :=
  if n.isRegular then
    match w with
    | .all => n
    | .first => atomic n
    | .existence => lookAhead false n
  else
    match n with
    | seq a b => seq (a.narrow .all) (b.narrow w)
    | alt a b => alt (a.narrow w) (b.narrow w)
    | rep 0 (some 1) greedy body => rep 0 (some 1) greedy (body.narrow w)
    | rep least most greedy body => rep least most greedy (body.narrow .all)
    | capture x body => capture x (body.narrow (if w = .all then .all else .first))
    | atomic body => atomic (body.narrow .first)
    | lookAhead negated body => lookAhead negated (body.narrow .existence)
    | lookBehind negated width body => lookBehind negated width (body.narrow .existence)
    | n => n

end Node

end Keystroke
