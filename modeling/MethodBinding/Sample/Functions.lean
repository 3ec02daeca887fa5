import MethodBinding.Host.Library
import MethodBinding.Value.Conversion

/-!
# Sample host functions

One or more host functions of each shape. Among them `resend` calls a method that it looks up, and
leaves open what the host functions do that it comes to.
-/

namespace MethodBinding.Sample

/-! ## Functions without context -/

/-- The square root of a number that is not negative. -/
def squareRoot (_ a : Value) : CallM (Option Value) :=
  match a.float? with
  | none => throw (.typeMismatch "Numeric" a.typeName)
  | some x =>
    if x.nonnegative then return some (.float x.sqrt) else throw (.raised "Math::DomainError")

/-- Reads the argument as a host type and writes it back. -/
def convert (α : Type) [OfValue α] [ToValue α] (_ a : Value) : CallM (Option Value) := do
  let x : α ← MonadExcept.ofExcept (ofValue a)
  return some (toValue x)

/-! ## Functions with context -/

/-- The active version tag as a string. -/
def tagText (ctx : Context) (_ : Value) : CallM (Option Value) := return some (.str ctx.tag.text)

/-- The method that a string or symbol names on a module. -/
def findMethod (recv name : Value) : CallM Entry :=
  match name.text? with
  | none => throw (.typeMismatch "Symbol" name.typeName)
  | some text => do
    let space ← getThe Space
    let found := match recv with
      | .mod id => space.search id text
      | _ => none
    match found with
    | some e => return e
    | none => throw (.noMethod text recv.inspect)

/-- The name of the module that owns a method. -/
def ownerName (_ : Context) (recv name : Value) : CallM (Option Value) := do
  let e ← findMethod recv name
  return ((← getThe Space).module? e.owner).map fun m => .str m.name

/-- Defines a module. -/
def defineModule (_ : Context) (_ name : Value) : CallM (Option Value) :=
  match (ofValue name : Except CallError String) with
  | .error e => throw e
  | .ok text => do
    let s ← getThe Space
    set (s.define text .plain)
    return some (.mod s.nextId)

/-- Calls a method by name, with the items of an array as arguments. -/
def resend (does : Interpretation) (ctx : Context) (recv name arguments : Value) :
    CallM (Option Value) := do
  let e ← findMethod recv name
  return some (← e.callIn does ctx recv (arguments.items?.getD []) none)

/-- Calls the block once for each argument. -/
def each (ctx : Context) (_ : Value) (arguments : List Value) :
    Option Block → CallM (Option Value)
  | none => return none
  | some block => do
    let results ← arguments.mapM fun a => block.body ctx [a]
    return some (results.getLast?.getD .nil)

/-- Calls the block once with all arguments. -/
def yieldAll (ctx : Context) (_ : Value) (arguments : List Value) :
    Option Block → CallM (Option Value)
  | none => return none
  | some block => some <$> block.body ctx arguments

/-! ## The functions -/

/-- The sample functions other than `resend`. -/
def functions : Library :=
  [⟨"recv", .receiver, fun recv => return some recv⟩,
    ⟨"recv_none", .receiver, fun _ => return none⟩,
    ⟨"recv_raise", .receiver, fun _ => throw (.raised "boom")⟩,
    ⟨"f1_echo", .fixed1, fun _ a => return some a⟩,
    ⟨"f1_sqrt", .fixed1, squareRoot⟩,
    ⟨"f1_int", .fixed1, convert Int64⟩,
    ⟨"f1_string", .fixed1, convert String⟩,
    ⟨"f2_pair", .fixed2, fun _ a b => return some (.arr [a, b])⟩,
    ⟨"f2_eq", .fixed2, fun _ a b => return some (.bool (a == b))⟩,
    ⟨"f3_list", .fixed3, fun recv a b c => return some (.arr [recv, a, b, c])⟩,
    ⟨"args_count", .args, fun _ args => return some (.int (.ofNat args.length))⟩,
    ⟨"args_list", .args, fun recv args => return some (.arr (recv :: args))⟩,
    ⟨"ctx_compat", .contextReceiver, tagText⟩,
    ⟨"ctx_debug", .contextReceiver, fun ctx _ => return some (.str ctx.inspect)⟩,
    ⟨"ctx_consts", .contextReceiver, fun _ _ => return some (.arr [.nil, .bool true, .bool false])⟩,
    ⟨"cf1_owner", .contextFixed1, ownerName⟩,
    ⟨"cf1_define", .contextFixed1, defineModule⟩,
    ⟨"cf3_pick", .contextFixed3, fun _ _ a b c => return some (if a.isTruthy then b else c)⟩,
    ⟨"ca_last", .contextArgs, fun _ _ args => return args.getLast?⟩,
    ⟨"ca_types", .contextArgs, fun _ _ args => return some (.arr (args.map (.str ·.typeName)))⟩,
    ⟨"cab_each", .contextArgsBlock, each⟩,
    ⟨"cab_yield", .contextArgsBlock, yieldAll⟩,
    ⟨"cab_given", .contextArgsBlock, fun _ _ _ block => return some (.bool block.isSome)⟩]

/-- The entry of `resend`, where a call with these arguments is run by `does`. -/
def resendEntry (does : Value → Interpretation) : HostEntry :=
  ⟨"cf2_send", .contextFixed2, fun ctx recv name arguments =>
    resend (does arguments) ctx recv name arguments⟩

end MethodBinding.Sample
