import MethodBinding.Call.Error

/-!
# Conversions between values and host types

`OfValue` reads a value as a host type and fails with a type error that names the type it wanted;
`ToValue` goes the other way and never fails. `ToHostResult` turns whatever a host function returns
into a `HostResult`.
-/

namespace MethodBinding

/-- Host types that a value can be read as. -/
class OfValue (α : Type) where
  ofValue : Value → Except CallError α

/-- Host types that are written as a value. -/
class ToValue (α : Type) where
  toValue : α → Value

export OfValue (ofValue)
export ToValue (toValue)

/-- The view of a value, or a type error when the value has none. -/
def Value.orMismatch {α : Type} (v : Value) (expected : String) : Option α → Except CallError α
  | some a => .ok a
  | none => .error (.typeMismatch expected v.typeName)

instance : OfValue Int64 := ⟨fun v => v.orMismatch "Integer" v.int?⟩

instance : OfValue Double := ⟨fun v => v.orMismatch "Float" v.float?⟩

instance : OfValue Bool := ⟨fun v => v.orMismatch "Boolean" v.bool?⟩

/-- A symbol is no string here. -/
instance : OfValue String where
  ofValue v := v.orMismatch "String" <| match v with
    | .str s => some s
    | _ => none

instance : OfValue Value := ⟨.ok⟩

instance : ToValue Value := ⟨id⟩

instance : ToValue Int64 := ⟨.int⟩

instance : ToValue Double := ⟨.float⟩

instance : ToValue Bool := ⟨.bool⟩

instance : ToValue String := ⟨.str⟩

instance {α : Type} [ToValue α] : ToValue (List α) := ⟨fun as => .arr (as.map toValue)⟩

/-- Types that a host function may return. -/
class ToHostResult (α : Type) where
  toHostResult : α → HostResult

export ToHostResult (toHostResult)

/-- A function without a result returns no value. -/
instance : ToHostResult Unit := ⟨fun _ => .ok none⟩

instance : ToHostResult Value := ⟨fun v => .ok (some v)⟩

instance : ToHostResult (Option Value) := ⟨.ok⟩

/-- An error of the function is the error of the call, at any depth. -/
instance {α : Type} [ToHostResult α] : ToHostResult (Except CallError α) := ⟨(· >>= toHostResult)⟩

end MethodBinding
