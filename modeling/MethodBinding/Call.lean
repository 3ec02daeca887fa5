import MethodBinding.Call.Error
import MethodBinding.Space
import MethodBinding.Value.Inspect

/-!
# Calls

What host functions do is not part of a space: it is given by an interpretation, which assigns to
each host function a function of the type that its shape names. A host function may have effects of
any kind `m` besides its failures (`CallIn m`), whether or not its shape takes the context of the
call. `Adapter.invokeIn` counts the arguments if its policy says so, and hands them over slot by
slot; `Row.callIn` also turns the absence of a value into `nil`. Both are the same for all kinds of
effects.

In a program, a call runs in a space and may change it, and a failing call keeps the changes it made
before (`CallM`). It is given the context of the space that it starts in (`Adapter.invoke`,
`Row.call`).
-/

namespace MethodBinding

/-- What a host function is told about the space it is called in. The modules of a space may change
while a call runs, its settings never do. -/
structure Context where
  settings : Settings

namespace Context

/-- The active version tag. -/
def tag (ctx : Context) : VersionTag := ctx.settings.active

/-- A context as a text: its version tag. -/
def inspect (ctx : Context) : String :=
  "CallContext \x7b compat: " ++ ctx.tag.inspect ++ " \x7d"

end Context

/-! ## Host functions -/

section
variable (m : Type → Type)

/-- A computation with effects `m` that may fail. -/
abbrev CallIn := ExceptT CallError m

/-- The block passed along with a call. -/
structure BlockIn where
  body : Context → List Value → CallIn m Value

/-- The type of the host functions of a shape. -/
def HostShape.BehaviourIn : HostShape → Type
  | .receiver => Value → CallIn m (Option Value)
  | .fixed1 => Value → Value → CallIn m (Option Value)
  | .fixed2 => Value → Value → Value → CallIn m (Option Value)
  | .fixed3 => Value → Value → Value → Value → CallIn m (Option Value)
  | .args => Value → List Value → CallIn m (Option Value)
  | .contextReceiver => Context → Value → CallIn m (Option Value)
  | .contextFixed1 => Context → Value → Value → CallIn m (Option Value)
  | .contextFixed2 => Context → Value → Value → Value → CallIn m (Option Value)
  | .contextFixed3 => Context → Value → Value → Value → Value → CallIn m (Option Value)
  | .contextArgs => Context → Value → List Value → CallIn m (Option Value)
  | .contextArgsBlock => Context → Value → List Value → Option (BlockIn m) → CallIn m (Option Value)

/-- What each host function does. -/
abbrev InterpretationIn := (h : HostFunction) → h.shape.BehaviourIn m

end

/-! ## Handing calls over -/

section
variable {m : Type → Type} [Monad m]

/-- The error of an adapter whose slots the arguments do not fill. -/
def slotMismatch (args : List Value) (slots : UInt64) : CallError :=
  .arity ⟨args.length, .fixed slots⟩

/-- Hands a call over to a host function. Shapes with slots take exactly as many arguments as they
have slots; no argument is dropped, repeated or made up. -/
def HostShape.apply (ctx : Context) : (s : HostShape) → s.BehaviourIn m → Value → List Value →
    Option (BlockIn m) → CallIn m (Option Value)
  | .receiver, f, recv, _, _ => f recv
  | .fixed1, f, recv, [a], _ => f recv a
  | .fixed1, _, _, xs, _ => throw (slotMismatch xs 1)
  | .fixed2, f, recv, [a, b], _ => f recv a b
  | .fixed2, _, _, xs, _ => throw (slotMismatch xs 2)
  | .fixed3, f, recv, [a, b, c], _ => f recv a b c
  | .fixed3, _, _, xs, _ => throw (slotMismatch xs 3)
  | .args, f, recv, xs, _ => f recv xs
  | .contextReceiver, f, recv, _, _ => f ctx recv
  | .contextFixed1, f, recv, [a], _ => f ctx recv a
  | .contextFixed1, _, _, xs, _ => throw (slotMismatch xs 1)
  | .contextFixed2, f, recv, [a, b], _ => f ctx recv a b
  | .contextFixed2, _, _, xs, _ => throw (slotMismatch xs 2)
  | .contextFixed3, f, recv, [a, b, c], _ => f ctx recv a b c
  | .contextFixed3, _, _, xs, _ => throw (slotMismatch xs 3)
  | .contextArgs, f, recv, xs, _ => f ctx recv xs
  | .contextArgsBlock, f, recv, xs, block => f ctx recv xs block

/-- Runs an adapter: refuses a number of arguments outside the bounds if the policy checks them, and
hands the call over otherwise. -/
def Adapter.invokeIn (does : InterpretationIn m) (ctx : Context) (a : Adapter) (recv : Value)
    (args : List Value) (block : Option (BlockIn m)) : CallIn m (Option Value) :=
  if a.policy.check && !a.policy.arity.accepts args.length then
    throw (.arity ⟨args.length, a.policy.arity⟩)
  else a.host.shape.apply ctx (does a.host) recv args block

/-- Calls the method of a row. No value counts as `nil`. -/
def Row.callIn (does : InterpretationIn m) (ctx : Context) (r : Row) (recv : Value)
    (args : List Value) (block : Option (BlockIn m)) : CallIn m Value := do
  let result ← r.adapter.invokeIn does ctx recv args block
  return result.getD .nil

/-- The host function of a shape that does nothing and returns no value. -/
def HostShape.silent : (s : HostShape) → s.BehaviourIn m
  | .receiver => fun _ => pure none
  | .fixed1 => fun _ _ => pure none
  | .fixed2 => fun _ _ _ => pure none
  | .fixed3 => fun _ _ _ _ => pure none
  | .args => fun _ _ => pure none
  | .contextReceiver => fun _ _ => pure none
  | .contextFixed1 => fun _ _ _ => pure none
  | .contextFixed2 => fun _ _ _ _ => pure none
  | .contextFixed3 => fun _ _ _ _ _ => pure none
  | .contextArgs => fun _ _ _ => pure none
  | .contextArgsBlock => fun _ _ _ _ => pure none

end

/-! ## Calls in a space -/

/-- A computation in a space. A failure keeps the changes made before it. -/
abbrev CallM := CallIn (StateM Space)

/-- Runs a computation in a space. -/
def CallM.runIn {α : Type} (s : Space) (c : CallM α) : Except CallError α × Space := c.run s

abbrev Block := BlockIn (StateM Space)

abbrev HostShape.Behaviour (s : HostShape) : Type := s.BehaviourIn (StateM Space)

abbrev Interpretation := InterpretationIn (StateM Space)

/-- The context of the calls in a space. -/
def Space.context (s : Space) : Context := ⟨s.settings⟩

/-- Runs an adapter in the context of the space. -/
def Adapter.invoke (does : Interpretation) (a : Adapter) (recv : Value) (args : List Value)
    (block : Option Block) : CallM (Option Value) := do
  a.invokeIn does (← getThe Space).context recv args block

/-- Calls the method of a row in the context of the space. -/
def Row.call (does : Interpretation) (r : Row) (recv : Value) (args : List Value)
    (block : Option Block) : CallM Value := do
  r.callIn does (← getThe Space).context recv args block

/-- The context of a call in a space as a text. -/
def Space.inspectContext (s : Space) : String := s.context.inspect

end MethodBinding
