import MethodBinding.Attribute.Signature
import MethodBinding.Call
import Mathlib.Data.List.Nodup

/-!
# What shapes stand for

What statements about host functions say about a shape, written out shape by shape: how many slots
there are (`HostShape.Slots`), what the shape is called in generated code (`HostShape.IsVariant`),
and which parameters its host functions have (`HostShape.parameters`), which is what their type says
(`HostShape.behaviourIn_eq`).
-/

namespace MethodBinding

open Attribute

namespace HostShape

variable {s t : HostShape} {n : Nat} {text : String}

/-! ## Slots -/

/-- The shape has so many slots. Shapes that take all arguments as one list have none to count. -/
inductive Slots : HostShape → Nat → Prop where
  | receiver : Slots .receiver 0
  | fixed1 : Slots .fixed1 1
  | fixed2 : Slots .fixed2 2
  | fixed3 : Slots .fixed3 3
  | contextReceiver : Slots .contextReceiver 0
  | contextFixed1 : Slots .contextFixed1 1
  | contextFixed2 : Slots .contextFixed2 2
  | contextFixed3 : Slots .contextFixed3 3

theorem slots?_eq_some_iff : s.slots? = some n ↔ s.Slots n := by
  constructor
  · intro h
    cases s <;> cases h <;> constructor
  · intro h
    cases h <;> rfl

theorem hasSlots_iff : s.hasSlots = true ↔ ∃ n, s.Slots n ∧ 0 < n := by
  simp only [hasSlots, Option.any_eq_true, decide_eq_true_eq, slots?_eq_some_iff]

/-! ## Names in generated code -/

/-- In generated code the shape has this name. -/
inductive IsVariant : HostShape → String → Prop where
  | receiver : IsVariant .receiver "Receiver"
  | fixed1 : IsVariant .fixed1 "Fixed1"
  | fixed2 : IsVariant .fixed2 "Fixed2"
  | fixed3 : IsVariant .fixed3 "Fixed3"
  | args : IsVariant .args "Args"
  | contextReceiver : IsVariant .contextReceiver "ContextReceiver"
  | contextFixed1 : IsVariant .contextFixed1 "ContextFixed1"
  | contextFixed2 : IsVariant .contextFixed2 "ContextFixed2"
  | contextFixed3 : IsVariant .contextFixed3 "ContextFixed3"
  | contextArgs : IsVariant .contextArgs "ContextArgs"
  | contextArgsBlock : IsVariant .contextArgsBlock "ContextArgsBlock"

theorem isVariant_variant (s : HostShape) : s.IsVariant s.variant := by
  cases s <;> constructor

/-- Different shapes have different names. -/
theorem IsVariant.unique (hs : s.IsVariant text) (ht : t.IsVariant text) : s = t := by
  have hdistinct : (all.map variant).Nodup := by decide
  have hvariant {s : HostShape} (h : s.IsVariant text) : s.variant = text := by
    cases h <;> rfl
  exact List.inj_on_of_nodup_map hdistinct s.mem_all t.mem_all
    ((hvariant hs).trans (hvariant ht).symm)

/-! ## Parameters -/

/-- The kinds of the parameters of the host functions of a shape. -/
def parameters : HostShape → List ParamKind
  | receiver => [.value]
  | fixed1 => [.value, .value]
  | fixed2 => [.value, .value, .value]
  | fixed3 => [.value, .value, .value, .value]
  | args => [.value, .slice]
  | contextReceiver => [.context, .value]
  | contextFixed1 => [.context, .value, .value]
  | contextFixed2 => [.context, .value, .value, .value]
  | contextFixed3 => [.context, .value, .value, .value, .value]
  | contextArgs => [.context, .value, .slice]
  | contextArgsBlock => [.context, .value, .slice, .block]

end HostShape

/-- The type of functions that take parameters of these kinds. -/
def FunctionOf (m : Type → Type) (kinds : List ParamKind) : Type :=
  kinds.foldr (fun kind rest => typeOf kind → rest) (CallIn m (Option Value))
where
  typeOf : ParamKind → Type
    | .context => Context
    | .value => Value
    | .slice => List Value
    | .block => Option (BlockIn m)

theorem HostShape.behaviourIn_eq (m : Type → Type) (s : HostShape) :
    s.BehaviourIn m = FunctionOf m s.parameters := by
  cases s <;> rfl

end MethodBinding
