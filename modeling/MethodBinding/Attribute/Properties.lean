import MethodBinding.Attribute.Item
import MethodBinding.Visibility

/-!
# Properties of the attribute

The items of a `method` attribute are taken up one after the other into `Properties`, and the first
problem ends the reading. Each property with a value is given at most once, other names excepted;
flags may be repeated.
-/

namespace MethodBinding.Attribute

open Code

/-- What is wrong with an attribute. -/
inductive PropertyError where
  | duplicate (key : String)
  | unsupported
  | expectedEquals
  | expectedComma
  | expectedValue (kind : ValueKind)
  | visibility
  | malformed (fault : Fault)
deriving DecidableEq

namespace PropertyError

def message : PropertyError → String
  | duplicate key => "duplicate `" ++ key ++ "` property"
  | unsupported => "unsupported method property"
  | expectedEquals => "expected `=`"
  | expectedComma => "expected `,`"
  | expectedValue kind => "expected " ++ kind.title
  | visibility => "expected one of: public, private, protected, module_function"
  | malformed fault => fault.message

end PropertyError

/-- The properties given by an attribute. -/
structure Properties where
  name : Option StringLiteral := none
  required : Option (List Token) := none
  optional : Option (List Token) := none
  rest : Bool := false
  checkArity : Option Bool := none
  visibility : Option DeclaredVisibility := none
  moduleScope : Bool := false
  metaScope : Bool := false
  tag : Option StringLiteral := none
  aliases : List StringLiteral := []
deriving DecidableEq

/-! ## Values -/

/-- The value behind the equals sign of an item. -/
def Argument.value? : Argument → Except PropertyError PropertyValue
  | value v => .ok v
  | absent => .error .expectedEquals
  | malformed fault => .error (.malformed fault)

namespace PropertyValue

def text? : PropertyValue → Except PropertyError StringLiteral
  | text s => .ok s
  | _ => .error (.expectedValue .string)

def boolean? : PropertyValue → Except PropertyError Bool
  | boolean b => .ok b
  | _ => .error (.expectedValue .boolean)

/-- The tokens of a count. It is not evaluated, so that a negative count is found when the
descriptor is built. -/
def count? : PropertyValue → Except PropertyError (List Token)
  | count tokens => .ok tokens
  | _ => .error (.expectedValue .expression)

/-- The visibility that a word names. -/
def visibility? : PropertyValue → Except PropertyError DeclaredVisibility
  | word "public" => .ok .pub
  | word "private" => .ok .priv
  | word "protected" => .ok .prot
  | word "module_function" => .ok .moduleFunction
  | word _ => .error .visibility
  | _ => .error (.expectedValue .identifier)

end PropertyValue

/-- The value of a property that may be given once. The earlier value is looked at before the new
one. -/
def readOnce {α : Type} (key : String) (earlier : Option α) (argument : Argument)
    (read : PropertyValue → Except PropertyError α) : Except PropertyError (Option α) :=
  if earlier.isSome then .error (.duplicate key)
  else do
    let v ← argument.value?
    some <$> read v

/-- A flag, which nothing follows. -/
def readFlag : Argument → Except PropertyError Bool
  | .absent => .ok true
  | .value _ | .malformed _ => .error .expectedComma

namespace Properties

/-! ## Reading -/

/-- Takes up a property. -/
def addProperty (p : Properties) (key : String) (argument : Argument) :
    Except PropertyError Properties :=
  match key with
  | "name" => do return { p with name := ← readOnce key p.name argument (·.text?) }
  | "required" => do return { p with required := ← readOnce key p.required argument (·.count?) }
  | "optional" => do return { p with optional := ← readOnce key p.optional argument (·.count?) }
  | "rest" => do return { p with rest := ← readFlag argument }
  | "check_arity" => do
    return { p with checkArity := ← readOnce key p.checkArity argument (·.boolean?) }
  | "visibility" => do
    return { p with visibility := ← readOnce key p.visibility argument (·.visibility?) }
  | "module" => do return { p with moduleScope := ← readFlag argument }
  | "meta" => do return { p with metaScope := ← readFlag argument }
  | "compat" => do return { p with tag := ← readOnce key p.tag argument (·.text?) }
  | "alias" => do
    let v ← argument.value?
    return { p with aliases := p.aliases ++ [← v.text?] }
  | _ => .error .unsupported

/-- Takes up an item. -/
def add (p : Properties) (item : Item) : Except PropertyError Properties :=
  match item.isGlobal, item.path with
  | false, [key] => p.addProperty key item.argument
  | _, _ => .error .unsupported

/-- The properties that a list of items gives. -/
def ofItems (items : List Item) : Except PropertyError Properties :=
  items.foldlM add {}

/-- The properties that the tokens of an attribute give. What is wrong behind the items counts only
if they are in order. -/
def ofTokens (ts : List Token) : Except PropertyError Properties := do
  let (items, fault) := Item.split ts
  let p ← ofItems items
  match fault with
  | some fault => throw (.malformed fault)
  | none => return p

end Properties

end MethodBinding.Attribute
