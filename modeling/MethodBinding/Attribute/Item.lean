import MethodBinding.Code.Grammar

/-!
# Items of an attribute

An attribute is a list of items with commas between them: named properties with a value, and flags
without one. `Item.split` reads the items from the tokens of an attribute. Where the value of an
item ends depends on its kind, which is known from the name of the property.
-/

namespace MethodBinding.Attribute

open Code MethodBinding.Code.Parser

/-- The kind of value that a property takes. -/
inductive ValueKind where
  | string
  | boolean
  | identifier
  | expression
deriving DecidableEq

namespace ValueKind

/-- The kind of a value in a message. -/
def title : ValueKind → String
  | string => "string literal"
  | boolean => "boolean literal"
  | identifier => "identifier"
  | expression => "an expression"

/-- The kind of value that the property of a name takes, if it takes one. -/
def ofKey? (key : String) : Option ValueKind :=
  if key ∈ ["name", "compat", "alias"] then some string
  else if key ∈ ["required", "optional"] then some expression
  else if key = "check_arity" then some boolean
  else if key = "visibility" then some identifier
  else none

end ValueKind

/-- The value of a property. -/
inductive PropertyValue where
  | text (s : StringLiteral)
  | boolean (b : Bool)
  | word (w : String)
  /-- An expression, which is kept as it is. -/
  | count (tokens : List Token)
deriving DecidableEq

/-- What follows the path of an item. -/
inductive Argument where
  | absent
  | value (v : PropertyValue)
  /-- A value that cannot be read. -/
  | malformed (fault : Fault)
deriving DecidableEq

/-- An item of an attribute. -/
structure Item where
  isGlobal : Bool := false
  path : List String
  argument : Argument := .absent
deriving DecidableEq

/-! ## Reading -/

/-- A value of the kind. -/
def ValueKind.read : ValueKind → Parser PropertyValue
  | string => do
    match ← rest with
    | .string s :: _ =>
      takeNext
      return .text s
    | _ => failExpecting [title .string]
  | boolean => do
    if ← accept "true" then return .boolean true
    else if ← accept "false" then return .boolean false
    else failExpecting [title .boolean]
  | identifier => do
    let (_, taken) ← collect takeName
    return .word (Token.render taken)
  | expression => do return .count (← readExpression)

namespace Item

/-- The first word of a path. -/
def firstWord : Parser String := do
  match ← rest with
  | .word w :: _ =>
    takeNext
    return w
  | ts =>
    if isEnd ts then failExpecting ["nested attribute"]
    else if ← peek .literal then throw .literalItem
    else throw .otherItem

/-- The further words of a path, at most `n`. -/
def furtherWords : Nat → Parser (List String)
  | 0 => return []
  | n + 1 => do
    if !(← accept "::") then return []
    match ← rest with
    | .word w :: _ =>
      takeNext
      return w :: (← furtherWords n)
    | _ => failExpecting ["ident"]

/-- What follows the path of an item. -/
def readArgument (isGlobal : Bool) (path : List String) : Parser Argument := do
  let kind? := match isGlobal, path with
    | false, [key] => ValueKind.ofKey? key
    | _, _ => none
  match kind? with
  | none => return .absent
  | some kind =>
    if !(← accept "=") then return .absent
    match kind.read.run (← get) with
    | .ok (v, p) =>
      set p
      return .value v
    | .error fault => return .malformed fault

/-- An item. -/
def read : Parser Item := do
  let isGlobal ← accept "::"
  let first ← firstWord
  let path := first :: (← furtherWords (extent (← rest)))
  return { isGlobal, path, argument := ← readArgument isGlobal path }

/-- The comma behind an item; whether a further item follows. -/
def readComma : Parser Bool := do
  if ← atEnd then return false
  take ","
  return !(← atEnd)

/-- At most `n` items, and what is wrong behind them. -/
def splitFrom : Nat → Progress → List Item × Option Fault
  | 0, _ => ([], none)
  | n + 1, p =>
    match read.run p with
    | .error fault => ([], some fault)
    | .ok (item, p) =>
      match readComma.run p with
      | .error fault => ([item], some fault)
      | .ok (false, p) => ([item], p.surplus.map .surplus)
      | .ok (true, p) =>
        let (items, fault) := splitFrom n p
        (item :: items, fault)

/-- The items of an attribute, up to the first fault that no item holds. -/
def split (ts : List Token) : List Item × Option Fault :=
  if ts.isEmpty then ([], none) else splitFrom (extent ts) { rest := ts }

end Item

end MethodBinding.Attribute
