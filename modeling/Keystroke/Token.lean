import Keystroke.Text.Basic
import Keystroke.Unicode.Property

namespace Keystroke

structure Token where
  start : Nat
  type : Text
  deriving DecidableEq, Repr

def words (t : Text) : List Text :=
  (t.splitOnP Unicode.isBlank).filter (· ≠ [])

/-- Whether `kind` occurs as whole segments in what is left of a scope. Occurrences are counted
from the left and do not overlap: `blocked` characters still belong to the last one. `atStart`
tells whether a segment starts here. -/
def hasSegments (kind : Text) : (blocked : Nat) → (atStart : Bool) → Text → Bool
  | _, _, [] => false
  | blocked, atStart, c :: rest =>
    let next := c = '.'
    match blocked with
    | n + 1 => hasSegments kind n next rest
    | 0 =>
      if kind.isPrefixOf (c :: rest) then
        let after := (c :: rest).drop kind.length
        (atStart && after.head?.all (· = '.')) || hasSegments kind (kind.length - 1) next rest
      else hasSegments kind 0 next rest

/-- Whether a scope has a kind. No scope has the empty kind. -/
def scopeHasKind (scope kind : Text) : Bool :=
  kind ≠ [] && hasSegments kind 0 true scope

namespace Token

def inAnyScope (t : Token) (kinds : List Text) : Bool :=
  (words t.type).any fun scope => kinds.any (scopeHasKind scope)

end Token

abbrev TokenSource := Nat → Option Token

structure LineTokens where
  offset : Nat
  tokens : List Token
  deriving DecidableEq, Repr

/-- The last of the tokens, from the first one on, that start at or before an offset. -/
def LineTokens.tokenAt (l : LineTokens) : TokenSource := fun offset =>
  if offset < l.offset then none
  else (l.tokens.takeWhile (·.start ≤ offset - l.offset)).getLast?

end Keystroke
