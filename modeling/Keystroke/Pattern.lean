import Keystroke.Pattern.Image
import Keystroke.Pattern.Backtrack
import Keystroke.Pattern.Plain
import Keystroke.Pattern.Rule

namespace Keystroke

inductive Dialect where
  | plain
  | rule
  deriving DecidableEq, Repr

structure InvalidPattern where
  dialect : Dialect
  source : Text
  deriving DecidableEq, Repr

def InvalidPattern.message (e : InvalidPattern) : String :=
  let source := String.ofList e.source
  match e.dialect with
  | .plain => s!"Invalid pattern `{source}`"
  | .rule => s!"Invalid rule pattern `{source}`"

structure Pattern where
  source : Text
  node : Node
  groups : Nat
  deriving DecidableEq, Repr

inductive SearchResult where
  | found
  | absent
  | aborted
  deriving DecidableEq, Repr

namespace Pattern

/-- The number of failed attempts after which a search is aborted. -/
def stepLimit : Nat :=
  1000000

/-- The flags that letters beside a rule pattern switch on; other letters mean nothing. -/
def flagsOf (letters : Text) : PatternFlags where
  ignoreCase := letters.contains 'i'
  multiLine := letters.contains 'm'
  dotAll := letters.contains 's'

def plain (source : Text) : Except InvalidPattern Pattern :=
  match PlainPattern.parse? source with
  | some (node, groups) => .ok ⟨source, node, groups⟩
  | none => .error ⟨.plain, source⟩

def rule (source letters : Text) : Except InvalidPattern Pattern :=
  match RulePattern.parse? (flagsOf letters) source with
  | some (node, groups) => .ok ⟨source, node, groups⟩
  | none => .error ⟨.rule, source⟩

/-- The node to search for: groups that are not asked for again need not be remembered. -/
def searched (p : Pattern) : Node :=
  let node := p.node.openFinalLookAhead
  node.keepGroups fun x => node.asksFor x

/-- Searches a text for a match that may start and end anywhere. -/
def search (p : Pattern) (t : Text) : SearchResult :=
  let text := t.toArray
  let node := p.searched
  if node.isRegular then if node.occurs text then .found else .absent
  else
    let places := List.range (text.size + 1)
    match (node.narrow .existence).runFrom text (Slots.ofCount p.groups) places stepLimit with
    | .matched _ _ _ => .found
    | .failed _ => .absent
    | .aborted => .aborted

end Pattern

end Keystroke
