import MethodBinding.Call.Arity
import MethodBinding.Host.Shape
import MethodBinding.NameMap
import MethodBinding.Text.Quoted
import MethodBinding.Value
import MethodBinding.Visibility

/-!
# Rows of method tables

A `Row` is a method as a table holds it: a name, the module that owns it, its visibility, its
argument bounds, and the adapter that calls the host function. Rows are never changed; a row under
another name, owner or visibility is a new row with the same adapter. An `Entry` is a row that has
been made a thing of its own: its stamp tells it apart from every other entry, also from one with
equal contents.
-/

namespace MethodBinding

/-- What calls a host function under an arity policy. The identity tells apart adapters that do the
same. -/
structure Adapter where
  identity : Nat
  host : HostFunction
  policy : ArityPolicy
deriving DecidableEq

/-- A method: what introspection shows of it, and the adapter that runs it. -/
structure Row where
  name : String
  owner : ModuleId
  visibility : Visibility
  arity : Arity
  check : Bool
  adapter : Adapter
deriving DecidableEq

namespace Row

/-- The same method with another owner. -/
def withOwner (r : Row) (owner : ModuleId) : Row := { r with owner }

/-- The same method with another visibility. -/
def withVisibility (r : Row) (visibility : Visibility) : Row := { r with visibility }

/-- The same method under another name. -/
def withName (r : Row) (name : String) : Row := { r with name }

/-- Whether two rows are run by the same adapter. -/
def sharesAdapter (a b : Row) : Bool := a.adapter.identity == b.adapter.identity

/-- What introspection shows of a row. -/
def inspect (r : Row) : String :=
  "MethodEntry \x7b name: " ++ quoted r.name ++ ", owner: ModuleId(" ++ toString r.owner.index ++
    "), visibility: " ++ r.visibility.inspect ++ ", arity: " ++ r.arity.inspect ++
    ", check_arity: " ++ (if r.check then "true" else "false") ++ ", .. \x7d"

end Row

/-- A row with an identity of its own. -/
structure Entry extends Row where
  stamp : Nat
deriving DecidableEq

/-- The methods of one module by name. -/
abbrev MethodTable := NameMap Entry

end MethodBinding
