import Keystroke.Pattern.Reading

namespace Keystroke.PlainPattern

def nestingLimit : Nat :=
  250

def isMeta (c : Char) : Bool :=
  c ∈ ['\\', '.', '+', '*', '?', '(', ')', '|', '[', ']', '\x7b', '\x7d', '^', '$', '#', '&', '-',
    '~']

def skip : (steps : Nat) → Text → Text
  | 0, t => t
  | steps + 1, t =>
    match t with
    | '#' :: rest => skip steps ((rest.dropWhile (· ≠ '\n')).drop 1)
    | c :: rest => if Unicode.isBlank c then skip steps rest else t
    | [] => []

def blanks (r : Reading) (t : Text) : Text :=
  if r.flags.extended then skip t.length t else t

inductive Escape where
  | literal (c : Char)
  | set (s : CharSet)
  | place (a : Assertion)

/-- A character given by exactly `count` hexadecimal digits, or by any number between braces. -/
def hexChar? (count : Nat) (t : Text) : Option (Char × Text) :=
  match t with
  | '\x7b' :: t =>
    let digits := t.takeWhile (· ≠ '\x7d')
    match t.drop digits.length with
    | _ :: rest =>
      if digits = [] then none
      else do return (← charOfCode? (← hexValue? digits), rest)
    | [] => none
  | _ =>
    let digits := t.take count
    if digits.length = count then do
      return (← charOfCode? (← hexValue? digits), t.drop count)
    else none

def property? (ignoreCase negated : Bool) (t : Text) : Option (CharSet × Text) :=
  let named name := (CharSet.named? name).map fun s => (s.foldedIf ignoreCase).negatedIf negated
  match t with
  | '\x7b' :: t =>
    let name := t.takeWhile (· ≠ '\x7d')
    match t.drop name.length with
    | _ :: rest => do return (← named name, rest)
    | [] => none
  | c :: rest => do return (← named [c], rest)
  | [] => none

def specialBoundary? (t : Text) : Option (Assertion × Text) :=
  match t with
  | '\x7b' :: t =>
    let name := t.takeWhile (· ≠ '\x7d')
    match String.ofList name, t.drop name.length with
    | "start", _ :: rest => some (.wordStart, rest)
    | "end", _ :: rest => some (.wordEnd, rest)
    | "start-half", _ :: rest => some (.wordStartHalf, rest)
    | "end-half", _ :: rest => some (.wordEndHalf, rest)
    | _, _ => none
  | _ => none

def isBoundaryName (t : Text) : Bool :=
  match t with
  | '\x7b' :: c :: _ => c.isAlpha || c = '-'
  | _ => false

/-- The meaning of an escape, after its backslash. Other letters and digits, and characters
beyond ASCII, cannot be escaped. -/
def escape? (f : PatternFlags) (t : Text) : Option (Escape × Text) :=
  match t with
  | [] => none
  | c :: rest =>
    let hex count := (hexChar? count rest).map fun (c, rest) => (.literal c, rest)
    if isMeta c then some (.literal c, rest)
    else
      match c with
      | 'd' => some (.set .digit, rest)
      | 'D' => some (.set (.compl .digit), rest)
      | 's' => some (.set .blank, rest)
      | 'S' => some (.set (.compl .blank), rest)
      | 'w' => some (.set .word, rest)
      | 'W' => some (.set (.compl .word), rest)
      | 'a' => some (.literal '\x07', rest)
      | 'f' => some (.literal '\x0c', rest)
      | 'n' => some (.literal '\n', rest)
      | 'r' => some (.literal '\r', rest)
      | 't' => some (.literal '\t', rest)
      | 'v' => some (.literal '\x0b', rest)
      | 'x' => hex 2
      | 'u' => hex 4
      | 'U' => hex 8
      | 'p' => (property? f.ignoreCase false rest).map fun (s, rest) => (.set s, rest)
      | 'P' => (property? f.ignoreCase true rest).map fun (s, rest) => (.set s, rest)
      | 'A' => some (.place .textStart, rest)
      | 'z' => some (.place .textEnd, rest)
      | 'b' =>
        if isBoundaryName rest then (specialBoundary? rest).map fun (a, rest) => (.place a, rest)
        else some (.place .wordBoundary, rest)
      | 'B' => some (.place .notWordBoundary, rest)
      | '<' => some (.place .wordStart, rest)
      | '>' => some (.place .wordEnd, rest)
      | c => if c.isAlphanum || 128 ≤ c.toNat then none else some (.literal c, rest)

/-- The tokens of a class and all that follows it, each with the text after it, as far as they can
be told. -/
def classTokens (r : Reading) : (steps : Nat) → Text → List (ClassToken × Text)
  | 0, _ => []
  | steps + 1, t =>
    match blanks r t with
    | [] => []
    | '\\' :: t =>
      match escape? r.flags t with
      | some (.literal c, t) => (.literal c, t) :: classTokens r steps t
      | some (.set s, t) => (.set s, t) :: classTokens r steps t
      | _ => []
    | c :: t => (.plain c, t) :: classTokens r steps t

def class? (r : Reading) (t : Text) : Option (CharSet × Text) := do
  let tokens := classTokens r t.length t
  let (s, rest) ← ClassToken.class? r.flags.ignoreCase (tokens.map (·.1))
  let (_, t) ← tokens[tokens.length - rest.length - 1]?
  return (s, t)

def number? (r : Reading) (t : Text) : Option (Option Nat × Text) :=
  match takeDigits (t.dropWhile Unicode.isBlank) with
  | ([], rest) => some (none, rest.dropWhile Unicode.isBlank)
  | (digits, rest) =>
    let n := decimalValue digits
    if repetitionLimit < n then none
    else some (some n, blanks r (rest.dropWhile Unicode.isBlank))

def bounds? (r : Reading) (t : Text) : Option (Nat × Option Nat × Text) := do
  match ← number? r (blanks r t) with
  | (some least, '\x7d' :: t) => return (least, some least, t)
  | (some least, ',' :: t) =>
    match blanks r t with
    | '\x7d' :: t => return (least, none, t)
    | t =>
      match ← number? r t with
      | (some most, '\x7d' :: t) => if least ≤ most then return (least, some most, t) else none
      | _ => none
  | _ => none

def quantify? (r : Reading) (least : Nat) (most : Option Nat) (t : Text) :
    Option (Reading × Text) :=
  if r.canRepeat then
    let (lazy, t) := match t with
      | '?' :: t => (true, t)
      | t => (false, t)
    some (r.mapLast (.rep least most (lazy == r.flags.swapGreed)) .item, t)
  else none

def name? (r : Reading) (t : Text) : Option (Text × Text) :=
  let name := t.takeWhile (· ≠ '>')
  let isFirst c := c = '_' || Unicode.isAlphabetic c
  let isOther c := c = '_' || c = '.' || c = '[' || c = ']' || Unicode.isAlphanumeric c
  match name, t.drop name.length with
  | c :: others, _ :: rest =>
    if isFirst c && others.all isOther && (r.names.lookup name).isNone then some (name, rest)
    else none
  | _, _ => none

def switch? (f : PatternFlags) (on : Bool) (c : Char) : Option PatternFlags :=
  match c with
  | 'i' => some { f with ignoreCase := on }
  | 'm' => some { f with multiLine := on }
  | 's' => some { f with dotAll := on }
  | 'U' => some { f with swapGreed := on }
  | 'x' => some { f with extended := on }
  | 'u' => if on then some f else none
  | _ => none

/-- Reads flags after `(?` up to the sign that ends them. No flag and no hyphen may be repeated,
and a hyphen must be followed by a flag; `signs` are those read so far, the last one first. -/
def flags? (outside : PatternFlags) : Reading → (signs : List Char) → Text →
    Option (Reading × Text)
  | _, _, [] => none
  | r, signs, c :: t =>
    let dangling := signs.head? = some '-'
    if c = ')' then if signs.isEmpty || dangling then none else some (r.pass, t)
    else if c = ':' then if dangling then none else some (r.openGroup .plain outside, t)
    else if c ∈ signs then none
    else if c = '-' then flags? outside r ('-' :: signs) t
    else do
      let f ← switch? r.flags (!signs.contains '-') c
      flags? outside { r with flags := f } (c :: signs) t

def group? (r : Reading) (t : Text) : Option (Reading × Text) :=
  if nestingLimit ≤ r.outer.length then none
  else
    match blanks r t with
    | '?' :: '=' :: _ | '?' :: '!' :: _ | '?' :: '<' :: '=' :: _ | '?' :: '<' :: '!' :: _ => none
    | '?' :: '<' :: t | '?' :: 'P' :: '<' :: t =>
      (name? r t).map fun (name, t) => (r.openCapture (some name), t)
    | '?' :: t => flags? r.flags r [] t
    | t => some (r.openCapture none, t)

/-- Closes the innermost group and restores the flags that were in force outside it. -/
def close? (r : Reading) : Option Reading := do
  let (level, outside) ← r.leave?
  let item ← level.kind.wrap? level.content
  return { outside with flags := level.flags }.pushNode item.node

def step? (r : Reading) (c : Char) (t : Text) : Option (Reading × Text) :=
  match c with
  | '|' => some (r.branch, t)
  | ')' => (close? r).map (·, t)
  | '(' => group? r t
  | '[' => (class? r t).map fun (s, t) => (r.pushNode (.one s), t)
  | '\\' =>
    match escape? r.flags t with
    | some (.literal c, t) => some (r.pushLiteral c, t)
    | some (.set s, t) => some (r.pushNode (.one s), t)
    | some (.place a, t) => some (r.pushNode (.assert a), t)
    | none => none
  | '.' => some (r.pushNode r.flags.dot, t)
  | '^' => some (r.pushNode r.flags.circumflex, t)
  | '$' => some (r.pushNode r.flags.dollar, t)
  | '*' => quantify? r 0 none t
  | '+' => quantify? r 1 none t
  | '?' => quantify? r 0 (some 1) t
  | '\x7b' => do
    let (least, most, t) ← bounds? r t
    quantify? r least most (blanks r t)
  | c => some (r.pushLiteral c, t)

/-- Reads a pattern to its end. Each step takes a sign or more, so the length of the pattern
bounds the steps. -/
def read? : (steps : Nat) → Reading → Text → Option Reading
  | 0, r, t => if t.isEmpty then some r else none
  | steps + 1, r, t =>
    match blanks r t with
    | [] => some r
    | c :: t => (step? r c t).bind fun (r, t) => read? steps r t

/-- The tree of a plain pattern and the number of its groups. Plain patterns have no look-around and
ask for no text of a group again; a brace after a piece must start a repetition. -/
def parse? (source : Text) : Option (Node × Nat) := do
  let r ← read? source.length { flags := {} } source
  return (← r.finish?, r.groups)

/-- Escapes a text so that it matches itself in a pattern. -/
def escape (t : Text) : Text :=
  t.flatMap fun c => if isMeta c then ['\\', c] else [c]

end Keystroke.PlainPattern
