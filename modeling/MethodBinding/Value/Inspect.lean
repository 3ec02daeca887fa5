import MethodBinding.Number.Written
import MethodBinding.Text.Quoted
import MethodBinding.Value

/-!
# The text of a value

`Value.inspect` writes a value for a reader: strings are quoted, symbols follow a colon as they are,
and the items of an array stand in brackets.
-/

namespace MethodBinding.Value

mutual

/-- The text of a value. -/
def inspect : Value → String
  | nil => "nil"
  | bool true => "true"
  | bool false => "false"
  | int n => toString n.toInt
  | float x => x.text
  | str s => quoted s
  | sym s => ":" ++ s
  | arr items => "[" ++ ", ".intercalate (inspectItems items) ++ "]"
  | mod id => "#<Module " ++ toString id.index ++ ">"

/-- The text of each item. -/
def inspectItems : List Value → List String
  | [] => []
  | v :: vs => inspect v :: inspectItems vs

end

end MethodBinding.Value
