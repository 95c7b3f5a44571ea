import Keystroke.Text.Basic

namespace Keystroke

inductive LineEnding where
  | lineFeed
  | carriageReturn
  | both
  /-- The end of the document. -/
  | absent
  deriving DecidableEq, Repr

def LineEnding.text : LineEnding → Text
  | lineFeed => ['\n']
  | carriageReturn => ['\r']
  | both => ['\r', '\n']
  | absent => []

structure Line where
  start : Nat
  text : Text
  ending : LineEnding
  deriving DecidableEq, Repr

def Line.stop (l : Line) : Nat :=
  l.start + Text.width l.text

def extendFirst (c : Char) : List (Text × LineEnding) → List (Text × LineEnding)
  | [] => [([c], .absent)]
  | (l, e) :: rest => (c :: l, e) :: rest

/-- The texts of all lines, each with what ends it: a line feed, a carriage return, or the two
together. -/
def lineTexts : Text → List (Text × LineEnding)
  | [] => [([], .absent)]
  | '\r' :: '\n' :: t => ([], .both) :: lineTexts t
  | '\r' :: t => ([], .carriageReturn) :: lineTexts t
  | '\n' :: t => ([], .lineFeed) :: lineTexts t
  | c :: t => extendFirst c (lineTexts t)

def placeLines (start : Nat) : List (Text × LineEnding) → List Line
  | [] => []
  | (l, e) :: rest => ⟨start, l, e⟩ :: placeLines (start + Text.width l + Text.width e.text) rest

/-- A row and a byte column within it. -/
structure Position where
  row : Nat
  column : Nat
  deriving DecidableEq, Repr

structure Document where
  text : Text
  lines : List Line

namespace Document

def ofText (t : Text) : Document :=
  ⟨t, placeLines 0 (lineTexts t)⟩

def length (d : Document) : Nat :=
  Text.width d.text

def isEmpty (d : Document) : Bool :=
  d.text.isEmpty

def lineCount (d : Document) : Nat :=
  d.lines.length

def lineStart? (d : Document) (row : Nat) : Option Nat :=
  d.lines[row]?.map (·.start)

def lineText? (d : Document) (row : Nat) : Option Text :=
  d.lines[row]?.map (·.text)

/-- The line of a row, or an empty line past the last one. -/
def line (d : Document) (row : Nat) : Line :=
  d.lines[row]?.getD ⟨d.length, [], .absent⟩

/-- The row of an offset, which is the last one that starts at or before it; an offset on a line
ending belongs to the line that it ends. -/
def rowOf (d : Document) (offset : Nat) : Except OffsetError Nat := do
  let _ ← Text.splitAt d.text offset
  return (d.lines.takeWhile (·.start ≤ offset)).length - 1

def positionOf (d : Document) (offset : Nat) : Except OffsetError Position := do
  let row ← d.rowOf offset
  return ⟨row, offset - (d.line row).start⟩

def splitLineAt (d : Document) (offset : Nat) : Except OffsetError (Text × Text) := do
  let row ← d.rowOf offset
  let line := d.line row
  return Text.cut line.text (offset - line.start)

end Document

end Keystroke
