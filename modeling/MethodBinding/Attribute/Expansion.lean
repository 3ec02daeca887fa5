import MethodBinding.Attribute.Properties
import MethodBinding.Attribute.Signature
import MethodBinding.Descriptor

/-!
# Expansion of the attribute

Next to an annotated function a second one is generated, which builds the descriptor: a chain of
calls on a draft, one per property (`Properties.calls`), around a host function that forwards its
parameters to the annotated one (`Inferred.hostParameters`). `Expansion.tokens` writes the generated
code, and `Expansion.build?` is what running it gives.
-/

namespace MethodBinding.Attribute

open Code

/-! ## The chain of calls -/

/-- A call in the chain. Counts are expressions, which are not evaluated before the chain runs. -/
inductive Call where
  | required (count : List Token)
  | optional (count : List Token)
  | rest
  | checkArity (enabled : Bool)
  | visibility (visibility : DeclaredVisibility)
  | moduleScope
  | metaScope
  | tag (text : StringLiteral)
  | otherName (name : StringLiteral)
deriving DecidableEq

/-- The path of what generated code refers to. -/
def bindingPath : List Token := code ":: garnet_bind"

/-- The path of the core types in generated code. -/
def corePath : List Token := code ":: garnet_bind :: garnet_core"

namespace Call

/-- A call of a method with some arguments. -/
def write (method : String) (arguments : List Token) : List Token :=
  [.mark ".", .word method] ++ Token.group .paren arguments

/-- The tokens of a call. -/
def tokens : Call → List Token
  | required count => write "required" count
  | optional count => write "optional" count
  | rest => write "rest" []
  | checkArity enabled => write "check_arity" [.word (if enabled then "true" else "false")]
  | visibility v =>
    write "visibility" (bindingPath ++ code ":: DeclaredVisibility ::" ++ [.word v.variant])
  | moduleScope => write "module" []
  | metaScope => write "meta" []
  | tag text => write "compat" [.string text]
  | otherName name => write "alias" [.string name]

/-- What a call says about the method, if its count is a literal. -/
def clause? : Call → Option Clause
  | required count => (Token.toInt64? count).map .required
  | optional count => (Token.toInt64? count).map .optional
  | rest => some .rest
  | checkArity enabled => some (.checkArity enabled)
  | visibility v => some (.visibility v)
  | moduleScope => some .moduleScope
  | metaScope => some .metaScope
  | tag text => some (.tag ⟨text.value⟩)
  | otherName name => some (.otherName name.value)

end Call

/-- The count of mandatory arguments: as given, or else the number of slots if there are any. -/
def Properties.requiredCount (p : Properties) (slots : Option Nat) : Option (List Token) :=
  match p.required, slots with
  | some count, _ => some count
  | none, some n => if 0 < n then some [.ofNat n "i64"] else none
  | none, none => none

/-- The calls for all properties, in a fixed order. -/
def Properties.calls (p : Properties) (slots : Option Nat) : List Call :=
  ((p.requiredCount slots).map .required).toList ++
    (p.optional.map .optional).toList ++
    (if p.rest then [.rest] else []) ++
    (p.checkArity.map .checkArity).toList ++
    (p.visibility.map .visibility).toList ++
    (if p.moduleScope then [.moduleScope] else []) ++
    (if p.metaScope then [.metaScope] else []) ++
    (p.tag.map .tag).toList ++
    p.aliases.map .otherName

/-! ## The host function -/

/-- A parameter of the generated host function. -/
structure HostParameter where
  name : String
  kind : ParamKind
deriving DecidableEq

/-- The type of a parameter of the generated host function. -/
def ParamKind.tokens : ParamKind → List Token
  | context =>
    [.mark "&"] ++ corePath ++ code ":: CallContext < '_ >"
  | value => [.mark "&"] ++ corePath ++ code ":: Value"
  | slice => [.mark "&"] ++ Token.group .bracket (corePath ++ code ":: Value")
  | block =>
    code ":: core :: option :: Option < &" ++ corePath ++ code ":: Block >"

/-- A list of tokens with commas between its parts. -/
def commaSeparated (parts : List (List Token)) : List Token := [Token.mark ","].intercalate parts

namespace Inferred

/-- The parameters of the generated host function. -/
def hostParameters (i : Inferred) : List HostParameter :=
  (if i.context then [⟨"__ctx", .context⟩] else []) ++
    [⟨"__recv", .value⟩] ++
    (match i.slots with
      | some n => (List.range n).map fun k => ⟨"__arg" ++ toString k, .value⟩
      | none => [⟨"__args", .slice⟩]) ++
    (if i.block then [⟨"__block", .block⟩] else [])

/-- What the generated host function passes on. -/
def callArguments (i : Inferred) : List String :=
  (if i.context then ["__ctx"] else []) ++
    ["__recv"] ++
    (match i.slots with
      | some n => (List.range n).map fun k => "__arg" ++ toString k
      | none => ["__args"]) ++
    (if i.block then ["__block"] else [])

/-- The parameter list of the generated host function. -/
def parameterTokens (i : Inferred) : List Token :=
  commaSeparated (i.hostParameters.map fun p => [.word p.name, .mark ":"] ++ p.kind.tokens)

/-- The argument list of the call to the annotated function. -/
def argumentTokens (i : Inferred) : List Token :=
  commaSeparated (i.callArguments.map fun name => [.word name])

end Inferred

/-! ## The generated code -/

/-- What is generated for an annotated function. -/
structure Expansion where
  function : Function
  properties : Properties
  inferred : Inferred

/-- Expands the attribute on a function. -/
def expand (properties : Properties) (function : Function) : Except SignatureError Expansion := do
  let inferred ← function.infer
  return { function, properties, inferred }

namespace Expansion

/-- The name of the method: as given, or else that of the function. -/
def methodName (e : Expansion) : StringLiteral := e.properties.name.getD (.ofText e.function.name)

/-- The name of the generated function, in which a raw identifier loses its mark. -/
def descriptorName (e : Expansion) : String :=
  let name := e.function.name
  (if name.startsWith "r#" then (name.drop 2).toString else name) ++ "_descriptor"

/-- The chain of calls on the draft. -/
def calls (e : Expansion) : List Call := e.properties.calls e.inferred.slots

/-- The generated host function. -/
def hostTokens (e : Expansion) : List Token :=
  code "fn __host" ++ Token.group .paren e.inferred.parameterTokens ++ code "->" ++ corePath ++
    code ":: HostResult" ++
    Token.group .brace (corePath ++ code ":: IntoHostResult :: into_host_result" ++
      Token.group .paren
        (.word e.function.name :: Token.group .paren e.inferred.argumentTokens))

/-- The generated code. -/
def tokens (e : Expansion) : List Token :=
  let doc := "Binding metadata for [`" ++ e.function.name ++ "`]"
  let chain := bindingPath ++ code ":: MethodDescriptor :: builder" ++
    Token.group .paren [.string e.methodName] ++
    e.calls.flatMap Call.tokens ++
    Call.write "host" (bindingPath ++ code ":: HostFunction ::" ++
      [.word e.inferred.shape.variant] ++ code "( __host )") ++
    Call.write "build" []
  [.mark "#"] ++ Token.group .bracket (code "doc =" ++ [.ofText doc]) ++
    e.function.visibility ++ [.word "fn", .word e.descriptorName] ++
    code "( ) -> :: core :: result :: Result <" ++ bindingPath ++
    code ":: MethodDescriptor ," ++ bindingPath ++ code ":: DescriptorError >" ++
    Token.group .brace (e.hostTokens ++ chain)

/-- What running the generated function gives, if all its counts are literals. The generated host
function is known by `symbol`. -/
def build? (e : Expansion) (symbol : String) : Option (Except DescriptorError Descriptor) := do
  let clauses ← e.calls.mapM Call.clause?
  let host : HostFunction := ⟨symbol, e.inferred.shape⟩
  return (Draft.ofClauses e.methodName.value (clauses ++ [.host host])).build

end Expansion

end MethodBinding.Attribute
