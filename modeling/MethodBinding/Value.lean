import MethodBinding.Number.Double

/-!
# Dynamically typed values

A `Value` is what methods receive and return. Equality (`Value.eq`, written `==`) compares values of
the same kind only: an integer never equals a floating point number, and a string never a symbol.
-/

namespace MethodBinding

/-- The number of a module in a space, counted from zero in order of creation. -/
structure ModuleId where
  index : Nat
deriving DecidableEq

/-- A dynamically typed value. -/
inductive Value where
  | nil
  | bool (b : Bool)
  | int (n : Int64)
  | float (x : Double)
  | str (s : String)
  | sym (s : String)
  | arr (items : List Value)
  | mod (id : ModuleId)
deriving Inhabited

namespace Value

/-! ## Equality -/

mutual

/-- Equality of values: the same kind and equal contents. -/
def eq : Value → Value → Bool
  | nil, nil => true
  | bool a, bool b => a == b
  | int a, int b => a == b
  | float a, float b => a.eq b
  | str a, str b => a == b
  | sym a, sym b => a == b
  | arr as, arr bs => eqItems as bs
  | mod a, mod b => a == b
  | _, _ => false

/-- Equality of arrays: the same length and pairwise equal items. -/
def eqItems : List Value → List Value → Bool
  | [], [] => true
  | a :: as, b :: bs => eq a b && eqItems as bs
  | _, _ => false

end

instance : BEq Value := ⟨eq⟩

/-! ## Views -/

/-- Everything but `nil` and `false` counts as true. -/
def isTruthy : Value → Bool
  | nil | bool false => false
  | _ => true

def bool? : Value → Option Bool
  | bool b => some b
  | _ => none

def int? : Value → Option Int64
  | int n => some n
  | _ => none

/-- A number as a floating point number; integers are widened. -/
def float? : Value → Option Double
  | float x => some x
  | int n => some (.ofInt64 n)
  | _ => none

/-- The text of a string or a symbol. -/
def text? : Value → Option String
  | str s | sym s => some s
  | _ => none

def items? : Value → Option (List Value)
  | arr items => some items
  | _ => none

/-- The name of a value's type in messages. -/
def typeName : Value → String
  | nil => "NilClass"
  | bool true => "TrueClass"
  | bool false => "FalseClass"
  | int _ => "Integer"
  | float _ => "Float"
  | str _ => "String"
  | sym _ => "Symbol"
  | arr _ => "Array"
  | mod _ => "Module"

/-! ## Nesting -/

mutual

/-- How deeply arrays are nested; a value that is no array has depth zero. -/
def depth : Value → Nat
  | arr items => depthItems items + 1
  | _ => 0

/-- The greatest depth among the items. -/
def depthItems : List Value → Nat
  | [] => 0
  | v :: vs => max (depth v) (depthItems vs)

end

end Value

end MethodBinding
