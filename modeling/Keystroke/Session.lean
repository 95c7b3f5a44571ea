import Keystroke.Configuration.Reading

namespace Keystroke

inductive Failure where
  | pattern (e : InvalidPattern)
  | delimiter (e : EmptyDelimiter)
  | offset (e : OffsetError)
  | tabWidth (e : InvalidTabWidth)
  | configuration (e : LoadError)
  deriving DecidableEq, Repr

def Failure.message : Failure → String
  | pattern e => e.message
  | delimiter e => e.message
  | offset e => e.message
  | tabWidth e => e.message
  | configuration e => e.message

/-- A document with a caret, the assistant of its language, and what surrounds them. -/
structure Session where
  assistant : Assistant
  settings : IndentSettings
  tokens : TokenSource
  text : Text
  caret : Nat

inductive Step where
  | type (characters : Text)
  /-- A text arrives as one keystroke. -/
  | key (typed : Text)
  | backspace (times : Nat)
  | moveCaret (offset : Nat)
  | configure (configuration : Text)
  | indentWith (tabWidth : Nat) (insertSpaces : Bool)
  | tokenize (tokens : TokenSource)

namespace Session

def apply (s : Session) (c : Command) : Session :=
  { s with text := c.apply s.text, caret := c.caretAfter }

def press (s : Session) (typed : Text) : Except OffsetError (Logged Session) := do
  let command ← s.assistant.customize s.text s.caret typed s.settings s.tokens
  return return s.apply (← command)

def erase (s : Session) : Except OffsetError (Logged Session) := do
  let command ← s.assistant.backspace s.text s.caret
  return do
    match ← command with
    | some c => return s.apply c
    | none => return s

/-- The session after some changes, up to the first that fails. Those before it are kept. -/
def many (s : Session) :
    List (Session → Except OffsetError (Logged Session)) → Logged (Session × Option Failure)
  | [] => pure (s, none)
  | change :: rest =>
    match change s with
    | .error e => pure (s, some (.offset e))
    | .ok next => do (← next).many rest

/-- The session after a step, and why the step failed if it did. -/
def step (s : Session) : Step → Logged (Session × Option Failure)
  | .type characters => s.many (characters.map fun c s => s.press [c])
  | .key typed => s.many [(·.press typed)]
  | .backspace times => s.many (List.replicate times erase)
  | .moveCaret offset => return ({ s with caret := offset }, none)
  | .configure configuration =>
    match Configuration.ofText configuration with
    | .ok c => do return ({ s with assistant := ← c.assistant }, none)
    | .error e => return (s, some (.configuration e))
  | .indentWith tabWidth insertSpaces =>
    match IndentSettings.ofWidth tabWidth insertSpaces with
    | .ok settings => return ({ s with settings }, none)
    | .error e => return (s, some (.tabWidth e))
  | .tokenize tokens => return ({ s with tokens }, none)

def run (s : Session) : List Step → Logged (List (Session × Option Failure))
  | [] => pure []
  | step :: rest => do
    let result ← s.step step
    return result :: (← result.1.run rest)

end Session

end Keystroke
