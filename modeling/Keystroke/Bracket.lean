import Keystroke.Pattern
import Keystroke.Text.Quoted

namespace Keystroke

structure EmptyDelimiter where
  opening : Text
  closing : Text
  deriving DecidableEq, Repr

def EmptyDelimiter.message (e : EmptyDelimiter) : String :=
  let opening := String.ofList (Text.quoted e.opening)
  let closing := String.ofList (Text.quoted e.closing)
  s!"Empty delimiter in pair ({opening}, {closing})"

structure BracketPair where
  opening : Text
  closing : Text
  opening_ne : opening ≠ [] := by decide
  closing_ne : closing ≠ [] := by decide
  deriving DecidableEq

namespace BracketPair

def ofTexts (opening closing : Text) : Except EmptyDelimiter BracketPair :=
  if h : opening ≠ [] ∧ closing ≠ [] then .ok ⟨opening, closing, h.1, h.2⟩
  else .error ⟨opening, closing⟩

/-- The pairs of a language that configures no brackets. -/
def standard : List BracketPair :=
  [{ opening := ['('], closing := [')'] },
    { opening := ['\x7b'], closing := ['\x7d'] },
    { opening := ['['], closing := [']'] }]

/-- The pattern of an opening bracket at the end of a text, blanks aside. A bracket that begins with
a word character must not continue a word. -/
def openingPattern (opening : Text) : Text :=
  let boundary := if opening.head?.any Unicode.isWord then ['\\', 'b'] else []
  boundary ++ PlainPattern.escape opening ++ ['\\', 's', '*', '$']

/-- The pattern of a closing bracket at the start of a text, blanks aside. No word may continue a
bracket that ends with a word character. -/
def closingPattern (closing : Text) : Text :=
  let boundary := if closing.getLast?.any Unicode.isWord then ['\\', 'b'] else []
  ['^', '\\', 's', '*'] ++ PlainPattern.escape closing ++ boundary

end BracketPair

structure BracketPatterns where
  opening : Pattern
  closing : Pattern

namespace BracketPatterns

def ofPair (p : BracketPair) : Except InvalidPattern BracketPatterns := do
  return ⟨← Pattern.plain (BracketPair.openingPattern p.opening),
    ← Pattern.plain (BracketPair.closingPattern p.closing)⟩

def opensAt (p : BracketPatterns) (before : Text) : Bool :=
  p.opening.search before = .found

def closesAt (p : BracketPatterns) (after : Text) : Bool :=
  p.closing.search after = .found

end BracketPatterns

end Keystroke
