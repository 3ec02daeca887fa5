import MethodBinding.Attribute.Expansion
import MethodBinding.Binding.Pass
import MethodBinding.Sample.Functions

/-!
# Sample host types

Host types whose methods are declared with the attribute: each function has properties, a shape and
a behaviour, and gets its descriptor from the expansion of the attribute.
-/

namespace MethodBinding.Sample

open Attribute

/-- A function with the attribute. -/
structure Annotated where
  name : String
  properties : Properties := {}
  shape : HostShape
  run : shape.Behaviour

/-- A host type by its functions. -/
structure AnnotatedType where
  name : String
  functions : List Annotated

/-- The signature that a shape stands for. -/
def inferredOf (s : HostShape) : Inferred where
  context := s.takesContext
  slots := s.slots?
  block := s == .contextArgsBlock

namespace Annotated

/-- The symbol of the generated host function: the name of the type comes first. -/
def symbol (typeName : String) (f : Annotated) : String := typeName ++ "." ++ f.name

/-- The function and what it does. -/
def entry (typeName : String) (f : Annotated) : HostEntry := ⟨f.symbol typeName, f.shape, f.run⟩

/-- What is generated for the function. -/
def expansion (f : Annotated) : Expansion where
  function :=
    { name := f.name, visibility := [], isAsync := false, generics := [], selfParameter := none,
      parameters := [] }
  properties := f.properties
  inferred := inferredOf f.shape

/-- The descriptor of the function. Sample counts are literals, so that there always is a result. -/
def descriptor (typeName : String) (f : Annotated) : Except DescriptorError Descriptor :=
  (f.expansion.build? (f.symbol typeName)).getD (.error (.missingHost f.name))

end Annotated

/-- The descriptors of all functions, or the first error. -/
def AnnotatedType.hostType (t : AnnotatedType) : HostType where
  name := t.name
  descriptors := t.functions.mapM (·.descriptor t.name)

/-- What the functions of a type do. -/
def AnnotatedType.library (t : AnnotatedType) : Library := t.functions.map (·.entry t.name)

/-! ## The types -/

/-- A count property. -/
def count (n : Int) : Option (List Code.Token) := some (Code.Token.ofInt n)

/-- The size of a collection, under three names. -/
def sizeFunction : Annotated where
  name := "size"
  properties := { aliases := ["length", "count"] }
  shape := .receiver
  run := fun _ => return some (.int 3)

/-- Functions that take nothing into account and answer one value. -/
def constant (s : HostShape) (v : Value) : s.Behaviour :=
  match s with
  | .receiver => fun _ => return some v
  | .fixed1 => fun _ _ => return some v
  | .fixed2 => fun _ _ _ => return some v
  | .fixed3 => fun _ _ _ _ => return some v
  | .args => fun _ _ => return some v
  | .contextReceiver => fun _ _ => return some v
  | .contextFixed1 => fun _ _ _ => return some v
  | .contextFixed2 => fun _ _ _ _ => return some v
  | .contextFixed3 => fun _ _ _ _ _ => return some v
  | .contextArgs => fun _ _ _ => return some v
  | .contextArgsBlock => fun _ _ _ _ => return some v

def collection : AnnotatedType where
  name := "Collection"
  functions :=
    [sizeFunction,
      { name := "create", properties := { metaScope := true }, shape := .receiver,
        run := constant .receiver (.str "created") },
      { name := "each", properties := { rest := true, visibility := some .prot },
        shape := .contextArgsBlock, run := each }]

def mathFunctions : AnnotatedType where
  name := "MathFunctions"
  functions :=
    [{ name := "math_sqrt",
       properties :=
         { name := some "sqrt", visibility := some .moduleFunction, required := count 1 },
       shape := .fixed1, run := squareRoot }]

/-- A method with one mandatory and one optional argument. -/
def optionalFunction (name : String) (checkArity : Option Bool) : Annotated where
  name := name
  properties := { required := count 1, optional := count 1, checkArity }
  shape := .contextArgs
  run := constant .contextArgs (.bool true)

def boundClass : AnnotatedType where
  name := "MyBoundClass"
  functions :=
    [{ name := "void_returning_method", shape := .receiver, run := HostShape.receiver.silent },
      { name := "four_arg_method", properties := { required := count 4 }, shape := .args,
        run := constant .args (.bool true) },
      optionalFunction "optTrue" (some true),
      optionalFunction "optFalse" (some false),
      optionalFunction "optDefault" none]

def moduleMethods : AnnotatedType where
  name := "ModuleMethods"
  functions :=
    [{ name := "a_module_method", properties := { moduleScope := true }, shape := .receiver,
       run := fun recv => return some recv }]

/-- A method for one version, which answers the version. -/
def versionedFunction (tag : String) : Annotated where
  name := "method_" ++ tag
  properties := { name := some "method", tag := some tag }
  shape := .receiver
  run := constant .receiver (.str tag)

def versionedMethods : AnnotatedType where
  name := "VersionedMethods"
  functions := [versionedFunction "1.8", versionedFunction "1.9"]

def noVisibilityInitialize : AnnotatedType where
  name := "NoVisibilityInitialize"
  functions :=
    [{ name := "initialize", shape := .contextReceiver, run := constant .contextReceiver .nil },
      { name := "initialize_copy", shape := .contextFixed1, run := constant .contextFixed1 .nil },
      { name := "some_other_method", shape := .contextReceiver,
        run := constant .contextReceiver .nil }]

/-- One function for each shape that the other types leave out. -/
def shapes : AnnotatedType where
  name := "Shapes"
  functions :=
    [{ name := "pair", shape := .fixed2, run := fun _ a b => return some (.arr [a, b]) },
      { name := "triple", shape := .fixed3, run := fun _ _ _ c => return some c },
      { name := "compat", shape := .contextReceiver, run := tagText },
      { name := "ctx_pair", shape := .contextFixed2, run := fun _ _ a _ => return some a },
      { name := "ctx_triple", shape := .contextFixed3,
        run := fun _ _ a b c =>
          if a.isTruthy && b.isTruthy && c.isTruthy then return none
          else throw (.raised "falsy") },
      { name := "ctx_slice", properties := { rest := true }, shape := .contextArgs,
        run := fun _ _ args => return args.head? },
      { name := "one", shape := .fixed1, run := fun _ a => return some a },
      { name := "hidden",
        properties := { visibility := some .priv, tag := some "1.9", aliases := ["other"] },
        shape := .receiver, run := HostShape.receiver.silent }]

def emptyType : AnnotatedType where
  name := "Empty"
  functions := []

/-! ## Types with a faulty function -/

def negative : AnnotatedType where
  name := "Negative"
  functions :=
    [sizeFunction,
      { name := "negative", properties := { optional := count (-1) }, shape := .args,
        run := HostShape.args.silent }]

def unchecked : AnnotatedType where
  name := "Unchecked"
  functions :=
    [{ name := "unchecked_pair", properties := { checkArity := some false }, shape := .fixed2,
       run := HostShape.fixed2.silent }]

def bothScopes : AnnotatedType where
  name := "BothScopes"
  functions :=
    [{ name := "both_scopes", properties := { metaScope := true, moduleScope := true },
       shape := .receiver, run := HostShape.receiver.silent }]

def wrongRequired : AnnotatedType where
  name := "WrongRequired"
  functions :=
    [{ name := "wrong_required", properties := { required := count 2 }, shape := .fixed1,
       run := HostShape.fixed1.silent }]

def nameless : AnnotatedType where
  name := "Nameless"
  functions :=
    [sizeFunction,
      { name := "nameless", properties := { name := some "" }, shape := .receiver,
        run := HostShape.receiver.silent }]

/-- A type that declares the same function twice; each declaration is faultless. -/
def twice : AnnotatedType where
  name := "Twice"
  functions := [sizeFunction, sizeFunction]

/-- All sample host types. -/
def hostTypes : List AnnotatedType :=
  [collection, mathFunctions, boundClass, moduleMethods, versionedMethods, noVisibilityInitialize,
    shapes, emptyType, negative, unchecked, bothScopes, wrongRequired, nameless, twice]

end MethodBinding.Sample
