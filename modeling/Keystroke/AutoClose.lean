import Keystroke.Bracket
import Keystroke.Token

namespace Keystroke

structure ClosingPair where
  pair : BracketPair
  /-- The kinds of scopes, in increasing order. -/
  notIn : List Text := []
  deriving DecidableEq

namespace ClosingPair

def insertKind (k : Text) : List Text → List Text
  | [] => [k]
  | x :: xs =>
    if k < x then k :: x :: xs
    else if k = x then x :: xs
    else x :: insertKind k xs

def except (pair : BracketPair) (kinds : List Text) : ClosingPair :=
  ⟨pair, kinds.foldr insertKind []⟩

def opening (p : ClosingPair) : Text :=
  p.pair.opening

def closing (p : ClosingPair) : Text :=
  p.pair.closing

/-- Whether `typed` after `before` completes the opening text of the pair. -/
def completes (p : ClosingPair) (before typed : Text) : Bool :=
  typed.isSuffixOf p.opening && p.opening.isSuffixOf (before ++ typed)

def surrounds (p : ClosingPair) (before after : Text) : Bool :=
  p.opening.isSuffixOf before && p.closing.isPrefixOf after

/-- Whether the text after the caret starts with the text of the pair that was typed. -/
def isRepeated (p : ClosingPair) (typed after : Text) : Bool :=
  (typed = p.opening && p.opening.isPrefixOf after) ||
    (typed = p.closing && p.closing.isPrefixOf after)

end ClosingPair

inductive CloseDecision where
  | passThrough
  /-- The typed text is dropped, and the caret steps over the text that is there. -/
  | suppress
  | insertWithClose (closing : Text)
  deriving DecidableEq, Repr

inductive DeleteDecision where
  | passThrough
  /-- An empty pair around the caret. -/
  | deletePair (start length : Nat)
  deriving DecidableEq, Repr

structure ClosingPairs where
  pairs : List ClosingPair
  closeBefore : Text
  deriving DecidableEq

namespace ClosingPairs

/-- The characters before which pairs are closed when none are configured. -/
def standardCloseBefore : Text :=
  [';', ':', '.', ',', '=', '\x7d', ']', ')', '>', ' ', '\n', '\t']

def closesBefore (e : ClosingPairs) (after : Text) : Bool :=
  after.head?.all fun c => Unicode.isBlank c || e.closeBefore.contains c

/-- Whether the scope at the caret lets a pair close: the token of the character before the caret
decides, and at the start of a line or without a token every scope does. -/
def scopeAllows (p : ClosingPair) (tokens : TokenSource) (before : Text) : Bool :=
  p.notIn.isEmpty ||
    match before.getLast? with
    | none => true
    | some c =>
      if c = '\n' ∨ c = '\r' then true
      else
        match tokens (Text.width before - c.utf8Size) with
        | some token => !token.inAnyScope p.notIn
        | none => true

def decideOpening (e : ClosingPairs) (p : ClosingPair) (tokens : TokenSource)
    (before typed after : Text) : CloseDecision :=
  if p.isRepeated typed after then .suppress
  else if e.closesBefore after && scopeAllows p tokens before then .insertWithClose p.closing
  else .passThrough

def opened? (e : ClosingPairs) (before typed : Text) : Option ClosingPair :=
  e.pairs.find? (·.completes before typed)

def stepsOver (e : ClosingPairs) (typed after : Text) : Bool :=
  e.pairs.any fun p => p.closing = typed && typed.isPrefixOf after

end ClosingPairs

end Keystroke
