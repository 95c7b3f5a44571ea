import Keystroke.Indentation

namespace Keystroke

inductive IndentAction where
  | keep
  | indent
  /-- One level more, and the text after the caret goes to a line of its own. -/
  | indentOutdent
  | outdent
  deriving DecidableEq, Repr

namespace IndentAction

def name : IndentAction → String
  | keep => "none"
  | indent => "indent"
  | indentOutdent => "indentOutdent"
  | outdent => "outdent"

/-- The name of an action in log messages. -/
def label : IndentAction → String
  | keep => "None"
  | indent => "Indent"
  | indentOutdent => "IndentOutdent"
  | outdent => "Outdent"

def all : List IndentAction :=
  [keep, indent, indentOutdent, outdent]

def ofName? (name : String) : Option IndentAction :=
  all.find? (·.name = name)

end IndentAction

structure EnterAction where
  indent : IndentAction
  appendText : Option Text := none
  /-- The number of characters taken off the end of the indentation. -/
  removeText : Option Nat := none
  deriving DecidableEq, Repr

structure ResolvedAction where
  indent : IndentAction
  appendText : Text
  removeText : Option Nat
  indentation : Text
  deriving DecidableEq, Repr

/-- Applies an action to the indentation of a line. An action that indents appends a tab, and
`indentOutdent` only does so when there is no text to append. -/
def EnterAction.resolve (a : EnterAction) (indentation : Text) : ResolvedAction where
  indent := a.indent
  appendText :=
    match a.appendText, a.indent with
    | none, .indent | none, .indentOutdent => ['\t']
    | none, _ => []
    | some t, .indent => '\t' :: t
    | some t, _ => t
  removeText := a.removeText
  indentation := indentation.take (indentation.length - a.removeText.getD 0)

/-- The text that an action inserts, and how many bytes of it stand before the caret. -/
def ResolvedAction.realize (a : ResolvedAction) (delimiter : Text) (s : IndentSettings) :
    Text × Nat :=
  let increased := s.normalize (a.indentation ++ a.appendText)
  match a.indent with
  | .keep | .indent =>
    let text := delimiter ++ increased
    (text, Text.width text)
  | .indentOutdent =>
    let upper := delimiter ++ increased
    (upper ++ delimiter ++ s.normalize a.indentation, Text.width upper)
  | .outdent =>
    let text := delimiter ++ s.outdent (s.normalize (s.wholeUnits a.indentation ++ a.appendText))
    (text, Text.width text)

def isLineDelimiter (t : Text) : Bool :=
  t ∈ [['\n'], ['\r', '\n'], ['\r']]

end Keystroke
