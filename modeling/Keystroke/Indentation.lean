import Keystroke.Document

namespace Keystroke

structure InvalidTabWidth where
  deriving DecidableEq, Repr

def InvalidTabWidth.message (_ : InvalidTabWidth) : String :=
  "Invalid tab width: 0"

/-- The tab width and whether indentation is made of spaces. Sizes are taken as unbounded numbers. -/
structure IndentSettings where
  tabWidth : Nat
  insertSpaces : Bool
  tabWidth_pos : 0 < tabWidth := by decide
  deriving DecidableEq

namespace IndentSettings

def standard : IndentSettings where
  tabWidth := 4
  insertSpaces := true

def ofWidth (tabWidth : Nat) (insertSpaces : Bool) : Except InvalidTabWidth IndentSettings :=
  if h : 0 < tabWidth then .ok ⟨tabWidth, insertSpaces, h⟩ else .error {}

def unit (s : IndentSettings) : Text :=
  if s.insertSpaces then List.replicate s.tabWidth ' ' else ['\t']

end IndentSettings

structure IndentPreferences where
  tabWidth : Option Nat := none
  insertSpaces : Option Bool := none
  deriving DecidableEq, Repr

/-- What an editor prefers, with gaps filled from the global preferences and then from the
standard settings. -/
def IndentPreferences.resolve (editor shared : IndentPreferences) :
    Except InvalidTabWidth IndentSettings :=
  let standard := IndentSettings.standard
  IndentSettings.ofWidth ((editor.tabWidth.or shared.tabWidth).getD standard.tabWidth)
    ((editor.insertSpaces.or shared.insertSpaces).getD standard.insertSpaces)

def isIndentChar (c : Char) : Bool :=
  c = ' ' || c = '\t'

def leadingIndent (t : Text) : Text :=
  t.takeWhile isIndentChar

def afterIndent (t : Text) : Text :=
  t.dropWhile isIndentChar

/-- The spaces and tabs at the start of the line of an offset, never past the offset. -/
def Document.leadingIndentAt (d : Document) (offset : Nat) : Except OffsetError Text := do
  let (before, _) ← d.splitLineAt offset
  return leadingIndent before

namespace IndentSettings

/-- The columns that spaces and tabs take up, a tab counting as the tab width. Their number is taken
as unbounded and never overflows, however wide a tab is. -/
def columns (s : IndentSettings) : Text → Nat
  | [] => 0
  | c :: t => (if c = '\t' then s.tabWidth else 1) + s.columns t

/-- The way to write `n` columns: spaces, or as many tabs as fit and then spaces. -/
def canonical (s : IndentSettings) (n : Nat) : Text :=
  if s.insertSpaces then List.replicate n ' '
  else List.replicate (n / s.tabWidth) '\t' ++ List.replicate (n % s.tabWidth) ' '

def normalize (s : IndentSettings) (t : Text) : Text :=
  s.canonical (s.columns (leadingIndent t)) ++ afterIndent t

end IndentSettings

def dropSpaces? : Nat → Text → Option Text
  | 0, t => some t
  | n + 1, ' ' :: t => dropSpaces? n t
  | _ + 1, _ => none

theorem dropSpaces?_eq_some {n : Nat} {t rest : Text} :
    dropSpaces? n t = some rest ↔ t = List.replicate n ' ' ++ rest := by
  induction n generalizing t with
  | zero => simp [dropSpaces?]
  | succ n ih =>
    cases t with
    | nil => simp [dropSpaces?, List.replicate_succ]
    | cons c t =>
      by_cases hc : c = ' '
      · subst c
        simp [dropSpaces?, List.replicate_succ, ih]
      · simp [dropSpaces?, List.replicate_succ, hc]

namespace IndentSettings

/-- What follows one unit of indentation at the start of a text: a tab, or as many spaces as the
tab width when spaces are inserted. -/
def dropUnit? (s : IndentSettings) (t : Text) : Option Text :=
  match t with
  | '\t' :: rest => some rest
  | _ => if s.insertSpaces then dropSpaces? s.tabWidth t else none

theorem length_of_dropUnit? {s : IndentSettings} {t rest : Text} (h : s.dropUnit? t = some rest) :
    rest.length < t.length := by
  unfold dropUnit? at h
  split at h
  next => cases Option.some.inj h; simp
  next =>
    split at h
    next =>
      have hp := s.tabWidth_pos
      rw [dropSpaces?_eq_some.mp h]
      simp
      omega
    next => cases h

def outdent (s : IndentSettings) (t : Text) : Text :=
  (s.dropUnit? t).getD t

/-- The longest beginning of a text that is made of whole units of indentation. -/
def wholeUnits (s : IndentSettings) (t : Text) : Text :=
  match _h : s.dropUnit? t with
  | some rest => t.take (t.length - rest.length) ++ s.wholeUnits rest
  | none => []
termination_by t.length
decreasing_by exact length_of_dropUnit? (by assumption)

end IndentSettings

end Keystroke
