import MethodBinding.Code.Token
import MethodBinding.Host.Shape

/-!
# Signatures of annotated functions

The shape of a host function is inferred from the types of its parameters. Each type is one of four
kinds (`ParamKind.ofType?`); the kinds must be an optional context, the receiver, and then up to
three values, or all arguments as one slice, which a block may follow if there is a context.
-/

namespace MethodBinding.Attribute

mutual

/-- A type in a signature. -/
inductive TypeExpr where
  /-- A path; the generic arguments are those in angle brackets behind its last segment. -/
  | path (isGlobal : Bool) (segments : List String) (arguments : Option (List GenericArgument))
  /-- A path within a trait of a type, such as `<T as Trait>::Name`. -/
  | qualified (self : TypeExpr) (trait name : String) (arguments : Option (List GenericArgument))
  | reference (lifetime : Option String) (isMutable : Bool) (target : TypeExpr)
  | slice (item : TypeExpr)
  | array (item : TypeExpr)
  | paren (inner : TypeExpr)
  | pointer (target : TypeExpr)
  | tuple (items : List TypeExpr)
  | dynamic (bounds : String)
  | implementing (bounds : String)
  | never
  | inferred
  /-- Any other type, such as that of a function or the call of a macro. -/
  | other (text : String)

/-- A generic argument of a path. -/
inductive GenericArgument where
  | type (t : TypeExpr)
  | lifetime (name : String)
  /-- A constant, an associated item or a constraint. -/
  | other (text : String)

end

instance : Inhabited TypeExpr := ⟨.never⟩

/-- The last segment of a path. -/
def TypeExpr.lastSegment? : TypeExpr → Option String
  | path _ segments _ => segments.getLast?
  | qualified _ _ name _ => some name
  | _ => none

/-- The generic arguments of a path. -/
def TypeExpr.arguments? : TypeExpr → Option (List GenericArgument)
  | path _ _ arguments => arguments
  | qualified _ _ _ arguments => arguments
  | _ => none

/-- Whether a type is a path that ends in `name`. -/
def TypeExpr.endsIn (t : TypeExpr) (name : String) : Bool := t.lastSegment? == some name

/-- The kinds of parameters that a host function may have. -/
inductive ParamKind where
  | context
  | value
  | slice
  | block
deriving DecidableEq

/-- The kind of a parameter of a type. -/
def ParamKind.ofType? : TypeExpr → Option ParamKind
  | .reference _ _ (.slice item) => if item.endsIn "Value" then some .slice else none
  | .reference _ _ target =>
    if target.endsIn "Value" then some .value
    else if target.endsIn "CallContext" then some .context
    else none
  | t =>
    match t.arguments? with
    | some (.type (.reference _ _ target) :: _) =>
      if t.endsIn "Option" && target.endsIn "Block" then some .block else none
    | _ => none

/-- What is wrong with a signature. -/
inductive SignatureError where
  | isAsync
  | isGeneric
  | hasSelf
  | unsupportedType
  | noReceiver
  | blockWithoutContext
  | unsupportedParameters
deriving DecidableEq

namespace SignatureError

def message : SignatureError → String
  | isAsync => "host methods cannot be async"
  | isGeneric => "host methods cannot be generic"
  | hasSelf => "`self` is not supported in #[method]"
  | unsupportedType =>
    "unsupported parameter type: expected `&CallContext`, `&Value`, `&[Value]` or `Option<&Block>`"
  | noReceiver => "expected a `&Value` receiver (after an optional `&CallContext`)"
  | blockWithoutContext => "a block parameter requires a leading `&CallContext`"
  | unsupportedParameters => "unsupported parameters: use up to three `&Value` or one `&[Value]`"

end SignatureError

/-- An annotated function: all of it that matters to its binding. -/
structure Function where
  name : String
  /-- The visibility as it is written. -/
  visibility : List Code.Token
  isAsync : Bool
  generics : List String
  /-- A receiver parameter of the language itself. -/
  selfParameter : Option String
  parameters : List TypeExpr

/-- What a signature says: whether there is a context, how many slots there are unless all arguments
come as one slice, and whether there is a block. -/
structure Inferred where
  context : Bool
  slots : Option Nat
  block : Bool
deriving DecidableEq

namespace Inferred

/-- The signature whose parameters after the receiver have these kinds. -/
def ofArguments (context : Bool) : List ParamKind → Except SignatureError Inferred
  | [.slice] => .ok ⟨context, none, false⟩
  | [.slice, .block] =>
    if context then .ok ⟨context, none, true⟩ else .error .blockWithoutContext
  | kinds =>
    if kinds.length ≤ 3 ∧ kinds.all (· == .value) then .ok ⟨context, some kinds.length, false⟩
    else .error .unsupportedParameters

/-- The signature whose parameters have these kinds. -/
def ofKinds : List ParamKind → Except SignatureError Inferred
  | .context :: .value :: rest => ofArguments true rest
  | .value :: rest => ofArguments false rest
  | _ => .error .noReceiver

/-- The shape that a signature is adapted by. -/
def shape (i : Inferred) : HostShape :=
  match i.context, i.slots, i.block with
  | false, some 0, _ => .receiver
  | false, some 1, _ => .fixed1
  | false, some 2, _ => .fixed2
  | false, some _, _ => .fixed3
  | false, none, _ => .args
  | true, some 0, _ => .contextReceiver
  | true, some 1, _ => .contextFixed1
  | true, some 2, _ => .contextFixed2
  | true, some _, _ => .contextFixed3
  | true, none, false => .contextArgs
  | true, none, true => .contextArgsBlock

end Inferred

/-- The kinds of all parameters, or an error for the first type that has none. -/
def kindsOf (types : List TypeExpr) : Except SignatureError (List ParamKind) :=
  types.mapM fun t =>
    match ParamKind.ofType? t with
    | some kind => .ok kind
    | none => .error .unsupportedType

/-- Infers the shape of a function from its signature. -/
def Function.infer (f : Function) : Except SignatureError Inferred :=
  if f.isAsync then .error .isAsync
  else if !f.generics.isEmpty then .error .isGeneric
  else if f.selfParameter.isSome then .error .hasSelf
  else do
    let kinds ← kindsOf f.parameters
    Inferred.ofKinds kinds

end MethodBinding.Attribute
