import Keystroke.Pattern.Reading

namespace Keystroke.RulePattern

def nestingLimit : Nat :=
  63

/-- What follows a comment, after its opening `(?#`. A backslash protects the next character. -/
def afterComment? : Text → Option Text
  | [] => none
  | ')' :: t => some t
  | '\\' :: _ :: t => afterComment? t
  | _ :: t => afterComment? t

def skip? (extended : Bool) : (steps : Nat) → Text → Option Text
  | 0, t => some t
  | steps + 1, t =>
    match t with
    | '(' :: '?' :: '#' :: t => (afterComment? t).bind (skip? extended steps)
    | '#' :: rest =>
      if extended then skip? extended steps ((rest.dropWhile (· ≠ '\n')).drop 1) else some t
    | c :: rest =>
      if extended && (c = ' ' || c = '\t' || c = '\n' || c = '\r') then
        skip? extended steps rest
      else some t
    | [] => some []

def blanks? (r : Reading) (t : Text) : Option Text :=
  skip? r.flags.extended t.length t

inductive Escape where
  | literal (c : Char)
  | set (s : CharSet)
  | item (i : Item)
  | numbered (index : Nat)
  | named (name : Text)

def isNameChar (c : Char) : Bool :=
  Unicode.isAlphanumeric c || c = '_'

def name? (close : Char) (t : Text) : Option (Text × Text) :=
  let name := t.takeWhile isNameChar
  match t.drop name.length with
  | c :: rest => if c = close ∧ name ≠ [] then some (name, rest) else none
  | [] => none

/-- A name or a number relative to the last group, which ends in `close`. -/
def groupReference? (r : Reading) (close : Char) (t : Text) : Option (Escape × Text) :=
  match t with
  | '-' :: digits =>
    match takeDigits digits with
    | ([], _) => none
    | (back, c :: rest) =>
      let back := decimalValue back
      if c = close ∧ 0 < back ∧ back ≤ r.groups then some (.numbered (r.groups + 1 - back), rest)
      else none
    | _ => none
  | _ => (name? close t).map fun (name, rest) => (.named name, rest)

def hexChar? (count : Nat) (t : Text) : Option (Char × Text) :=
  let digits := t.take count
  if digits.length = count ∧ (hexValue? digits).isSome then do
    return (← charOfCode? (← hexValue? digits), t.drop count)
  else
    match t with
    | '\x7b' :: t =>
      let digits := t.takeWhile (· ≠ '\x7d')
      match t.drop digits.length with
      | _ :: rest =>
        if digits = [] ∨ 8 < digits.length then none
        else do return (← charOfCode? (← hexValue? digits), rest)
      | [] => none
    | _ => none

def property? (ignoreCase negated : Bool) (t : Text) : Option (CharSet × Text) :=
  let named name := (CharSet.named? name).map fun s => (s.foldedIf ignoreCase).negatedIf negated
  match t with
  | '\x7b' :: t =>
    let name := t.takeWhile (· ≠ '\x7d')
    match t.drop name.length with
    | _ :: rest => do return (← named name, rest)
    | [] => none
  | c :: rest => do return (← named [c], rest)
  | [] => none

def commonEscape? (ignoreCase : Bool) (c : Char) (t : Text) : Option (Escape × Text) :=
  let hex count := (hexChar? count t).map fun (c, rest) => (.literal c, rest)
  match c with
  | 'd' => some (.set .digit, t)
  | 'D' => some (.set (.compl .digit), t)
  | 's' => some (.set .blank, t)
  | 'S' => some (.set (.compl .blank), t)
  | 'w' => some (.set .word, t)
  | 'W' => some (.set (.compl .word), t)
  | 'h' => some (.set .hexDigit, t)
  | 'H' => some (.set (.compl .hexDigit), t)
  | 'a' => some (.literal '\x07', t)
  | 'e' => some (.literal '\x1b', t)
  | 'f' => some (.literal '\x0c', t)
  | 'n' => some (.literal '\n', t)
  | 'r' => some (.literal '\r', t)
  | 't' => some (.literal '\t', t)
  | 'v' => some (.literal '\x0b', t)
  | 'x' => hex 2
  | 'u' => hex 4
  | 'U' => hex 8
  | 'p' => (property? ignoreCase false t).map fun (s, rest) => (.set s, rest)
  | 'P' => (property? ignoreCase true t).map fun (s, rest) => (.set s, rest)
  | c => if c.isAlphanum then none else some (.literal c, t)

def place (a : Assertion) : Escape :=
  .item ⟨.assert a, false⟩

def escape? (r : Reading) (t : Text) : Option (Escape × Text) :=
  let boundary (a : Assertion) (t : Text) : Option (Escape × Text) :=
    if t.head? = some '\x7b' then none else some (place a, t)
  match t with
  | [] => none
  | c :: rest =>
    if c.isDigit then
      let (digits, rest) := takeDigits t
      some (.numbered (decimalValue digits), rest)
    else
      match c with
      | 'k' =>
        match rest with
        | '\x27' :: rest => groupReference? r '\x27' rest
        | '<' :: rest => groupReference? r '>' rest
        | _ => none
      | 'A' => some (.item ⟨r.flags.circumflex, false⟩, rest)
      | 'z' => some (.item ⟨r.flags.dollar, false⟩, rest)
      | 'Z' =>
        some (.item ⟨.lookAhead false
          (.seq (.rep 0 none true (.one (.single '\n'))) r.flags.dollar), false⟩, rest)
      | 'G' => some (.item ⟨.assert .textStart, true⟩, rest)
      | 'K' => some (.item ⟨.empty, true⟩, rest)
      | 'b' => boundary .wordBoundary rest
      | 'B' => boundary .notWordBoundary rest
      | '<' => some (place .wordStart, rest)
      | '>' => some (place .wordEnd, rest)
      | c => commonEscape? r.flags.ignoreCase c rest

def classEscape? (ignoreCase : Bool) (t : Text) : Option (ClassToken × Text) :=
  match t with
  | [] => none
  | 'b' :: rest => some (.literal '\x08', rest)
  | c :: rest =>
    if c ∈ ['k', 'A', 'z', 'B', 'K', 'G'] then some (.literal c, rest)
    else
      match commonEscape? ignoreCase c rest with
      | some (.literal c, rest) => some (.literal c, rest)
      | some (.set s, rest) => some (.set s, rest)
      | _ => none

def classTokens? (r : Reading) : (steps depth : Nat) → Text → Option (List ClassToken × Text)
  | 0, _, _ => none
  | steps + 1, depth, t => do
    match ← blanks? r t with
    | [] => none
    | '\\' :: t =>
      let (token, t) ← classEscape? r.flags.ignoreCase t
      let (tokens, rest) ← classTokens? r steps depth t
      return (token :: tokens, rest)
    | '[' :: t =>
      let (tokens, rest) ← classTokens? r steps (depth + 1) t
      return (.plain '[' :: tokens, rest)
    | ']' :: t =>
      if depth ≤ 1 then return ([.plain ']'], t)
      else
        let (tokens, rest) ← classTokens? r steps (depth - 1) t
        return (.plain ']' :: tokens, rest)
    | c :: t =>
      let (tokens, rest) ← classTokens? r steps depth t
      return (.plain c :: tokens, rest)

def class? (r : Reading) (t : Text) : Option (CharSet × Text) := do
  let (start, t) :=
    match t with
    | '^' :: ']' :: t => (['^', ']'], t)
    | '^' :: t => (['^'], t)
    | ']' :: t => ([']'], t)
    | t => ([], t)
  let (tokens, rest) ← classTokens? r (t.length + 1) 1 t
  match ← ClassToken.class? r.flags.ignoreCase (start.map .plain ++ tokens) with
  | (s, []) => return (s, rest)
  | _ => none

def bounds? (r : Reading) (t : Text) : Option (Nat × Option Nat × Text) := do
  let number (t : Text) : Option (Nat × Text) :=
    match takeDigits t with
    | ([], _) => none
    | (digits, rest) =>
      let n := decimalValue digits
      if n < Nat.pow 2 64 then some (n, rest) else none
  let t ← blanks? r t
  let (least, t) ←
    match t with
    | ',' :: _ => some (0, t)
    | _ => number t
  match ← blanks? r t with
  | '\x7d' :: rest => return (least, some least, rest)
  | ',' :: t =>
    let t ← blanks? r t
    let (most, t) := match number t with
      | some (n, rest) => (some n, rest)
      | none => (none, t)
    match ← blanks? r t with
    | '\x7d' :: rest => return (least, most, rest)
    | _ => none
  | _ => none

def quantify? (r : Reading) (least : Nat) (most : Option Nat) (t : Text) :
    Option (Reading × Text) := do
  if !r.canRepeat then none
  if repetitionLimit < least || most.any (fun m => m < least || repetitionLimit < m) then none
  let (lazy, t) := match ← blanks? r t with
    | '?' :: t => (true, t)
    | t => (false, t)
  let (possessive, t) := match t with
    | '+' :: t => (true, t)
    | t => (false, t)
  let repeated := Node.rep least most (lazy == r.flags.swapGreed)
  return (r.mapLast (fun n => if possessive then .atomic (repeated n) else repeated n) .nothing, t)

/-- Switches one flag. The flags `given` beside the pattern cannot be switched off. -/
def switch? (given : PatternFlags) (f : PatternFlags) (on : Bool) (c : Char) :
    Option PatternFlags :=
  match c with
  | 'i' => some { f with ignoreCase := on || given.ignoreCase }
  | 'm' => some { f with multiLine := on || given.multiLine }
  | 's' => some { f with dotAll := on || given.dotAll }
  | 'U' => some { f with swapGreed := on }
  | 'x' => some { f with extended := on }
  | 'u' => if on then some f else none
  | _ => none

/-- Reads flags after `(?` up to the sign that ends them: a parenthesis if they hold from here
on, or a colon if they hold in a group. `read` counts the signs so far, of which a lone hyphen is
not enough. -/
def flags? (given : PatternFlags) (outside : PatternFlags) :
    (steps : Nat) → (r : Reading) → (on : Bool) → (read : Nat) → Text → Option (Reading × Text)
  | 0, _, _, _, _ => none
  | steps + 1, r, on, read, t => do
    let rest ← blanks? r t
    let read := read + (t.length - rest.length)
    match rest with
    | [] => none
    | '-' :: t => if on then flags? given outside steps r false (read + 1) t else none
    | ')' :: t => if read = 0 || (!on && read = 1) then none else return (r.pass, t)
    | ':' :: t =>
      if !on && read = 1 then none
      else return (r.openGroup .plain outside, t)
    | c :: t =>
      let f ← switch? given r.flags on c
      flags? given outside steps { r with flags := f } on (read + 1) t

def pushEscape? (r : Reading) : Escape → Option Reading
  | .literal c => some (r.pushLiteral c)
  | .set s => some (r.pushNode (.one s))
  | .item i => some (r.push i)
  | .numbered index =>
    if index = 0 then none
    else some ({ r with numbered := true }.pushNode (.again index r.flags.ignoreCase))
  | .named name =>
    match r.names.lookup name with
    | some index => some (r.pushNode (.again index r.flags.ignoreCase))
    | none =>
      if name.all Char.isDigit && 0 < decimalValue name then
        some ({ r with numbered := true }.pushNode
          (.again (decimalValue name) r.flags.ignoreCase))
      else none

def group? (given : PatternFlags) (r : Reading) (t : Text) : Option (Reading × Text) := do
  if nestingLimit ≤ r.outer.length then none
  let openKind kind t : Option (Reading × Text) := some (r.openGroup kind r.flags, t)
  match ← blanks? r t with
  | '?' :: '=' :: t => openKind (.lookAhead false) t
  | '?' :: '!' :: t => openKind (.lookAhead true) t
  | '?' :: '<' :: '=' :: t => openKind (.lookBehind false) t
  | '?' :: '<' :: '!' :: t => openKind (.lookBehind true) t
  | '?' :: '>' :: t => openKind .atomic t
  | '?' :: '<' :: t | '?' :: 'P' :: '<' :: t =>
    let (name, t) ← name? '>' t
    return (r.openCapture (some name), t)
  | '?' :: '\x27' :: t =>
    let (name, t) ← name? '\x27' t
    return (r.openCapture (some name), t)
  | '?' :: 'P' :: '=' :: t =>
    let (name, t) ← name? ')' t
    return (← pushEscape? r (.named name), t)
  | '?' :: t => flags? given r.flags (t.length + 1) r true 0 t
  | t => return (r.openCapture none, t)

/-- Whether a level breaks the rule that texts of groups are not asked for by number where groups
have names. It is applied to levels without alternatives. -/
def mixesNumbers (r : Reading) : Bool :=
  r.level.branches.isEmpty && r.numbered && !r.names.isEmpty

/-- Closes the innermost group. Only a group without number that may carry flags restores those
outside it. -/
def close? (r : Reading) : Option Reading := do
  if mixesNumbers r then none
  let (level, outside) ← r.leave?
  let item ← level.kind.wrap? level.content
  let outside := if level.kind = .plain then { outside with flags := level.flags } else outside
  if level.kind = .plain && item.node = .empty then return outside.pass
  else return outside.push item

def step? (given : PatternFlags) (r : Reading) (c : Char) (t : Text) :
    Option (Reading × Text) :=
  match c with
  | '|' => some (r.branch, t)
  | ')' => (close? r).map (·, t)
  | '(' => group? given r t
  | '[' => (class? r t).map fun (s, t) => (r.pushNode (.one s), t)
  | '\\' => do
    let (e, t) ← escape? r t
    return (← pushEscape? r e, t)
  | '.' => some (r.pushNode r.flags.dot, t)
  | '^' => some (r.push ⟨r.flags.circumflex, false⟩, t)
  | '$' => some (r.push ⟨r.flags.dollar, false⟩, t)
  | '*' => quantify? r 0 none t
  | '+' => quantify? r 1 none t
  | '?' => quantify? r 0 (some 1) t
  | '\x7b' =>
    match if r.level.pending = .nothing then none else bounds? r t with
    | some (least, most, t) => quantify? r least most t
    | none => some (r.pushLiteral c, t)
  | c => some (r.pushLiteral c, t)

/-- Reads a pattern to its end. Each step takes a sign or more, so the length of the pattern
bounds the steps. -/
def read? (given : PatternFlags) : (steps : Nat) → Reading → Text → Option Reading
  | 0, r, t => if t.isEmpty then some r else none
  | steps + 1, r, t => do
    match ← blanks? r t with
    | [] => return r
    | c :: t =>
      let (r, t) ← step? given r c t
      read? given steps r t

/-- The tree of a rule pattern and the number of its groups. A brace that starts no repetition stands
for itself, and an assertion or a repetition cannot be repeated. -/
def parse? (given : PatternFlags) (source : Text) : Option (Node × Nat) := do
  let r ← read? given source.length { flags := given } source
  if mixesNumbers r then none
  return (← r.finish?, r.groups)

end Keystroke.RulePattern
