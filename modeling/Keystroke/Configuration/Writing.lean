import Keystroke.Enter.Action
import Keystroke.Json5.Value

namespace Keystroke

open Json5

/-- A member with a name, if there is a value for it. -/
def Json5.Value.optionalMember (name : String) (v : Option Value) : List (Text × Value) :=
  (v.map fun v => (name.toList, v)).toList

def EnterAction.toValue (a : EnterAction) : Value :=
  .object <| ("indent".toList, .string a.indent.name.toList) ::
    Value.optionalMember "appendText" (a.appendText.map .string) ++
    Value.optionalMember "removeText" (a.removeText.map fun n => .number (.integer n))

def EnterAction.written (a : EnterAction) : Text :=
  a.toValue.written

end Keystroke
