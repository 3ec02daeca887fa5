/-!
# Shapes of host functions

A host function takes the receiver and then either a fixed number of arguments in slots of their own
(none to three) or all of them as one list; some also take the context of the call, and one takes
the block. `HostShape` lists the eleven signatures, `HostShape.countFault?` says which argument
counts a signature cannot represent.
-/

namespace MethodBinding

/-- The signature of a host function. -/
inductive HostShape where
  | receiver
  | fixed1
  | fixed2
  | fixed3
  | args
  | contextReceiver
  | contextFixed1
  | contextFixed2
  | contextFixed3
  | contextArgs
  | contextArgsBlock
deriving DecidableEq

/-- Why a shape cannot represent the declared argument counts. -/
inductive CountFault where
  | optionalOrRest
  | unfilled (slots : Nat) (required : UInt64)
deriving DecidableEq

namespace CountFault

/-- The fault as the end of a sentence about the shape. -/
def reason : CountFault → String
  | optionalOrRest => "cannot accept optional or rest arguments"
  | unfilled slots required =>
    "takes exactly " ++ toString slots ++ " argument(s) but " ++ toString required.toNat ++
      " are required"

end CountFault

namespace HostShape

/-- All shapes, in their usual order. -/
def all : List HostShape :=
  [receiver, fixed1, fixed2, fixed3, args, contextReceiver, contextFixed1, contextFixed2,
    contextFixed3, contextArgs, contextArgsBlock]

theorem mem_all (s : HostShape) : s ∈ all := by cases s <;> decide

/-- The name of a shape in manifests and messages. -/
def name : HostShape → String
  | receiver => "receiver"
  | fixed1 => "fixed1"
  | fixed2 => "fixed2"
  | fixed3 => "fixed3"
  | args => "args"
  | contextReceiver => "context-receiver"
  | contextFixed1 => "context-fixed1"
  | contextFixed2 => "context-fixed2"
  | contextFixed3 => "context-fixed3"
  | contextArgs => "context-args"
  | contextArgsBlock => "context-args-block"

/-- The name of a shape in generated code. -/
def variant : HostShape → String
  | receiver => "Receiver"
  | fixed1 => "Fixed1"
  | fixed2 => "Fixed2"
  | fixed3 => "Fixed3"
  | args => "Args"
  | contextReceiver => "ContextReceiver"
  | contextFixed1 => "ContextFixed1"
  | contextFixed2 => "ContextFixed2"
  | contextFixed3 => "ContextFixed3"
  | contextArgs => "ContextArgs"
  | contextArgsBlock => "ContextArgsBlock"

/-- The shape with a name. -/
def ofName? (s : String) : Option HostShape := all.find? (·.name == s)

theorem ofName?_name (s : HostShape) : ofName? s.name = some s := by cases s <;> decide

/-- Whether the function takes the context of the call. -/
def takesContext : HostShape → Bool
  | receiver | fixed1 | fixed2 | fixed3 | args => false
  | contextReceiver | contextFixed1 | contextFixed2 | contextFixed3 | contextArgs
  | contextArgsBlock => true

/-- The number of argument slots; a shape that takes all arguments as one list has none to count. -/
def slots? : HostShape → Option Nat
  | receiver | contextReceiver => some 0
  | fixed1 | contextFixed1 => some 1
  | fixed2 | contextFixed2 => some 2
  | fixed3 | contextFixed3 => some 3
  | args | contextArgs | contextArgsBlock => none

/-- Whether the shape has at least one slot to fill. -/
def hasSlots (s : HostShape) : Bool := s.slots?.any (0 < ·)

/-- What keeps a shape from representing the counts: slots admit neither optional nor further
arguments, and the mandatory ones must fill them exactly. -/
def countFault? (s : HostShape) (required optional : UInt64) (rest : Bool) : Option CountFault :=
  match s.slots? with
  | none => none
  | some slots =>
    if 0 < optional ∨ rest then some .optionalOrRest
    else if required.toNat ≠ slots then some (.unfilled slots required)
    else none

end HostShape

/-- A host function: the symbol it is known by, and its shape. What it does is said elsewhere, by an
interpretation of host functions. -/
structure HostFunction where
  symbol : String
  shape : HostShape
deriving DecidableEq

/-- A host function as a text: only its shape shows. -/
def HostFunction.inspect (h : HostFunction) : String := "HostFunction::" ++ h.shape.name

end MethodBinding
