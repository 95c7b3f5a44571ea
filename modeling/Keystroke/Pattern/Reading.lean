import Keystroke.Pattern.Basic
import Keystroke.Pattern.Class
import Keystroke.Text.Digits

namespace Keystroke

structure PatternFlags where
  ignoreCase : Bool := false
  multiLine : Bool := false
  dotAll : Bool := false
  /-- Plain quantifiers are lazy and marked ones greedy. -/
  swapGreed : Bool := false
  extended : Bool := false
  deriving DecidableEq, Repr

namespace PatternFlags

def literal (f : PatternFlags) (c : Char) : Node :=
  .one ((CharSet.single c).foldedIf f.ignoreCase)

def dot (f : PatternFlags) : Node :=
  .one (if f.dotAll then .all else .notLineFeed)

def circumflex (f : PatternFlags) : Node :=
  .assert (if f.multiLine then .lineStart else .textStart)

def dollar (f : PatternFlags) : Node :=
  .assert (if f.multiLine then .lineEnd else .textEnd)

end PatternFlags

inductive GroupKind where
  | plain
  | capture (index : Nat)
  | atomic
  | lookAhead (negated : Bool)
  | lookBehind (negated : Bool)
  deriving DecidableEq, Repr

structure Item where
  node : Node
  repeatable : Bool := true

inductive Pending where
  | nothing
  | item
  /-- Something that is no piece and cannot be repeated. -/
  | fixed
  deriving DecidableEq

structure Level where
  kind : GroupKind := .plain
  /-- The flags in force outside the group. -/
  flags : PatternFlags := {}
  /-- Finished alternatives, the last one first. -/
  branches : List Node := []
  /-- The pieces of the alternative being read, the last one first. -/
  items : List Item := []
  pending : Pending := .nothing

namespace Level

def current (l : Level) : Item :=
  match l.items with
  | [] => ⟨.empty, false⟩
  | [i] => i
  | items => ⟨.seqOf (items.reverse.map (·.node)), true⟩

def content (l : Level) : Item :=
  match l.branches with
  | [] => l.current
  | branches => ⟨.altOf (l.current.node :: branches).reverse, true⟩

end Level

structure Reading where
  flags : PatternFlags
  level : Level := {}
  /-- The levels around the innermost one, from inside out. -/
  outer : List Level := []
  groups : Nat := 0
  names : List (Text × Nat) := []
  /-- Whether the text of a group was asked for by number. -/
  numbered : Bool := false

namespace Reading

def push (r : Reading) (i : Item) : Reading :=
  { r with level := { r.level with items := i :: r.level.items, pending := .item } }

def pushNode (r : Reading) (n : Node) : Reading :=
  r.push ⟨n, true⟩

def pushLiteral (r : Reading) (c : Char) : Reading :=
  r.pushNode (r.flags.literal c)

/-- Notes something that is no piece of the pattern and cannot be repeated. -/
def pass (r : Reading) : Reading :=
  { r with level := { r.level with pending := .fixed } }

def branch (r : Reading) : Reading :=
  { r with level := { r.level with
      branches := r.level.current.node :: r.level.branches, items := [], pending := .nothing } }

def openGroup (r : Reading) (kind : GroupKind) (flags : PatternFlags) : Reading :=
  { r with level := { kind := kind, flags := flags }, outer := r.level :: r.outer }

def openCapture (r : Reading) (name : Option Text) : Reading :=
  let index := r.groups + 1
  let r := { r with groups := index, names := (name.map (·, index)).toList ++ r.names }
  r.openGroup (.capture index) r.flags

def leave? (r : Reading) : Option (Level × Reading) :=
  match r.outer with
  | [] => none
  | l :: outer => some (r.level, { r with level := l, outer := outer })

def mapLast (r : Reading) (f : Node → Node) (pending : Pending) : Reading :=
  match r.level.items with
  | [] => r
  | i :: items =>
    { r with level := { r.level with items := ⟨f i.node, true⟩ :: items, pending := pending } }

def canRepeat (r : Reading) : Bool :=
  r.level.pending = .item && (r.level.items.head?.any (·.repeatable))

/-- The tree of a pattern that has been read to its end: no group is left open, and no text of a
group is asked for again that does not exist. -/
def finish? (r : Reading) : Option Node :=
  let node := r.level.content.node
  if r.outer.isEmpty && node.greatestAgain ≤ r.groups then some node else none

end Reading

def GroupKind.wrap? (kind : GroupKind) (content : Item) : Option Item :=
  match kind with
  | plain => some content
  | capture index => some ⟨.capture index content.node, true⟩
  | atomic => some ⟨.atomic content.node, true⟩
  | lookAhead negated => some ⟨.lookAhead negated content.node, false⟩
  | lookBehind negated => (content.node.lookBehind? negated).map (⟨·, false⟩)

def charOfCode? (n : Nat) : Option Char :=
  if n.isValidChar then some (Char.ofNat n) else none

def repetitionLimit : Nat :=
  4294967295

end Keystroke
