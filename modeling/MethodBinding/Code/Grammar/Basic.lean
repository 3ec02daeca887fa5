import MethodBinding.Code.Parser

/-!
# Paths, attributes and macros

The parts of the grammar that expressions, patterns, types and statements share. The grammar is
recursive: each part is a function of a `Grammar`, which holds the parsers of its recursive parts.
-/

namespace MethodBinding.Code

/-- How strongly operators bind, the weakest first. -/
inductive Precedence where
  | jump
  | assign
  | range
  | or
  | and
  | condition
  | compare
  | bitOr
  | bitXor
  | bitAnd
  | shift
  | sum
  | product
  | cast
deriving DecidableEq

/-- The place of a precedence in the order. -/
def Precedence.rank (p : Precedence) : Nat := p.ctorIdx

/-- What matters about an expression that has been read. -/
inductive ExpressionForm where
  /-- A block or a control structure: it ends a statement or an arm by itself. -/
  | block
  | range
  | comparison
  /-- A macro in braces. -/
  | bracedMacro
  | other
deriving DecidableEq

/-- What matters about a type that has been read. -/
inductive TypeForm where
  /-- A single name, with arguments in angle brackets or none. -/
  | name
  | path
  | paren
  /-- Traits without a keyword before them. -/
  | traits
  | other
deriving DecidableEq

/-- What matters about a pattern that has been read. -/
inductive PatternForm where
  | rest
  /-- A range without one of its ends. -/
  | openRange
  | other
deriving DecidableEq

/-- The parsers of the recursive parts. -/
structure Grammar where
  /-- An expression; a structure literal is one only if `structs` says so. -/
  expression (structs : Bool) : Parser ExpressionForm
  /-- An expression that ends where a statement does. -/
  statementExpression : Parser ExpressionForm
  /-- An operand with the operators before it and the calls and fields behind it. -/
  operand (structs : Bool) : Parser ExpressionForm
  /-- What follows a left operand as far as it binds at least as strongly as `base`. -/
  continuation (structs : Bool) (base : Precedence) (left : ExpressionForm) :
    Parser ExpressionForm
  /-- What follows a right operand as far as it binds more strongly than `operator`. -/
  rightOperand (structs : Bool) (operator : Precedence) (right : ExpressionForm) :
    Parser ExpressionForm
  /-- A type; a sum of traits is one only if `plus` says so. -/
  type (plus : Bool) : Parser TypeForm
  /-- An argument in angle brackets; whether it is a lifetime. -/
  argument : Parser Bool
  /-- A pattern without alternatives. -/
  pattern : Parser PatternForm
  /-- The statements up to the end of a block. -/
  statements : Parser Unit
  /-- A declaration behind its attributes. -/
  declaration : Parser Unit
  /-- Names that are brought into scope. -/
  useTree : Parser Unit

namespace Grammar

open MethodBinding.Code.Parser

variable (g : Grammar)

/-! ## Attributes and macros -/

/-- A path without arguments. -/
def plainPath : Parser Unit := do
  skip "::"
  let starts : Parser Bool := peekAny [.name, "super", "self", "Self", "crate"]
  if !(← starts) then takeName
  repeatWhile do
    if !(← starts) then failExpecting ["path segment after `::`"]
    takeNext
    accept "::"

/-- What stands in the brackets of an attribute. -/
def attributeBody : Parser Unit := do
  if ← peek "unsafe" then takeNext else plainPath
  if ← peekAny [.group .paren, .group .bracket, .group .brace] then wholeGroup
  else if ← peek "=" then
    take "="
    let aloneLiteral ← lookAhead do
      take .literal
      atEnd
    if aloneLiteral == some true then take .literal
    else if (← peek "#") && (← peek2 (.group .bracket)) then throw .nestedAttribute
    else discard (g.expression true)

/-- Attributes of what follows; whether there are any. -/
def attributes : Parser Bool := do
  let any ← peek "#"
  repeatWhile do
    if !(← peek "#") then return false
    take "#"
    group .bracket (attributeBody g)
    return true
  return any

/-- Attributes of what they stand in. -/
def innerAttributes : Parser Unit :=
  repeatWhile do
    if !((← peek "#") && (← peek2 "!")) then return false
    take "#"
    take "!"
    group .bracket (attributeBody g)
    return true

/-- A block: statements in braces. -/
def block : Parser Unit := group .brace g.statements

/-- A block that may have attributes of its own. -/
def bodyBlock : Parser Unit := group .brace do
  innerAttributes g
  g.statements

/-! ## Paths -/

/-- What matters about a path that has been read. -/
structure PathForm where
  isQualified : Bool := false
  isGlobal : Bool := false
  segments : Nat := 1
  /-- Whether no segment has arguments. -/
  isPlain : Bool := true
  /-- Whether the last segment has no arguments. -/
  endsPlain : Bool := true
  /-- Whether a segment has arguments in parentheses. -/
  isParen : Bool := false

/-- A constant argument: a literal, a name or a block. -/
def constantArgument : Parser Unit := do
  if ← peek .literal then take .literal
  else if ← peek .name then takeNext
  else if ← peek (.group .brace) then bodyBlock g
  else failExpectingOne [.literal, .name, .group .brace]

/-- A binder of lifetimes. -/
def lifetimeBinder : Parser Unit := do
  take "for"
  take "<"
  separatedUpTo (peek ">") do
    discard (attributes g)
    take .lifetime
  take ">"

/-- The type that a function returns. -/
def returnType (plus : Bool) : Parser TypeForm := do
  if ← accept "->" then g.type plus else return .other

/-- Arguments in parentheses; whether a longer path may follow. -/
def parenArguments : Parser Bool := do
  group .paren (separated (discard (g.type true)))
  let hasResult ← peek "->"
  let form ← returnType g false
  return !hasResult || form == .paren

/-- Arguments in angle brackets. Lifetimes are written first. -/
def angleArguments : Parser Unit := do
  skip "::"
  angles g.argument

/-- A segment of a path; whether it has arguments. In an expression these follow a double colon. -/
def segment (inExpression : Bool) : Parser Bool := do
  if ← peekAny ["super", "self", "crate", "try"] then
    takeNext
    return false
  if ← peek "Self" then takeNext else takeName
  let hasAngle := (← peek "<") && !(← peekAny ["<=", "<<="])
  let hasColons := (← peek "::") && (← peek3 "<")
  if (hasAngle && !inExpression) || hasColons then
    angleArguments g
    return true
  else return false

/-- Further segments of a path, as long as `more` says so, at most `n`. -/
def moreSegments (inExpression : Bool) (more : Parser Bool) (form : PathForm) :
    Nat → Parser PathForm
  | 0 => return form
  | n + 1 => do
    if !(← more) then return form
    take "::"
    let hasArguments ← segment g inExpression
    moreSegments inExpression more
      { form with
        segments := form.segments + 1
        isPlain := form.isPlain && !hasArguments
        endsPlain := !hasArguments } n

/-- The further segments of a path; double colons before parentheses do not belong to it. -/
def furtherSegments (inExpression : Bool) (form : PathForm) : Parser PathForm := do
  let more : Parser Bool := do return (← peek "::") && !(← peek3 (.group .paren))
  moreSegments g inExpression more form (extent (← rest))

/-- A path. -/
def path (inExpression : Bool) : Parser PathForm := do
  let isGlobal ← accept "::"
  let hasArguments ← segment g inExpression
  furtherSegments g inExpression
    { isGlobal, isPlain := !hasArguments, endsPlain := !hasArguments }

/-- A path, or one within a type or within a trait of a type. -/
def qualifiedPath (inExpression : Bool) : Parser PathForm := do
  if !(← peek "<") then return ← path g inExpression
  take "<"
  discard (g.type true)
  if ← accept "as" then discard (path g false)
  take ">"
  take "::"
  let hasArguments ← segment g inExpression
  moreSegments g inExpression (peek "::")
    { isQualified := true, isPlain := !hasArguments, endsPlain := !hasArguments }
    (extent (← rest))

/-- Whether arguments in parentheses follow a path, perhaps behind a double colon. -/
def peekParenArguments : Parser Bool := do
  return (← peek (.group .paren)) || ((← peek "::") && (← peek3 (.group .paren)))

/-- Takes the arguments in parentheses that follow a path. The double colon is not written. -/
def takeParenArguments : Parser Bool := do
  discard (collect (accept "::"))
  parenArguments g

/-- A path of a trait, which may take arguments in parentheses. -/
def traitPath : Parser Unit := do
  let form ← path g false
  if form.endsPlain && (← peekParenArguments) then discard (takeParenArguments g)

/-- The index of a field, in decimal. -/
def indexToken (n : Nat) (suffix : String) : Parser Token := do
  if suffix != "" then throw .indexSuffix
  if 4294967295 < n then throw .indexTooLarge
  return .ofNat n ""

/-- The name or the index of a field; whether it is a name. -/
def takeMember : Parser Bool := do
  if ← peek .name then
    takeNext
    return true
  match ← rest with
  | .integer _ n suffix :: _ =>
    discard (collect takeNext)
    emit (← indexToken n suffix)
    return false
  | .mark "-" :: .integer _ _ suffix :: _ =>
    throw (if suffix == "" then .negativeIndex else .indexSuffix)
  | _ => failExpecting ["identifier or integer"]

/-! ## Bounds -/

/-- What a type may depend on. -/
def captures : Parser Unit := do
  take "use"
  angles do
    let isLifetime ← peek .lifetime
    if (← peek "Self") || isLifetime then takeNext else takeName
    return isLifetime

/-- A trait as a bound. -/
def traitBound : Parser Unit := do
  let hasBinder ← peek "for"
  if hasBinder then lifetimeBinder g
  if ← peek (.group .bracket) then group .bracket (take "const") else skip "const"
  let isMaybe ← accept "?"
  let bindsLate := isMaybe && !hasBinder && (← peek "for")
  if bindsLate then lifetimeBinder g
  traitPath g
  if isMaybe && (hasBinder || bindsLate) then throw .binderWithMark

/-- A bound; whether it is a trait. -/
def bound (mayCapture : Bool) : Parser Bool := do
  if ← peek .lifetime then
    takeNext
    return false
  else if ← peek "use" then
    if mayCapture then captures else throw .misplacedCapture
    return false
  else
    if ← peek (.group .paren) then group .paren (traitBound g) else traitBound g
    return true

/-- Bounds with plus signs between them, as long as `stop` does not say that they end. -/
def boundsUpTo (stop : Parser Bool) : Parser Unit :=
  repeatWhile do
    if ← stop then return false
    discard (bound g false)
    if ← stop then return false
    take "+"
    return true

/-- An argument in angle brackets: a lifetime, a constant, a type, or what an associated item equals
or is bound by. Whether it is a lifetime. -/
def argumentStep : Parser Bool := do
  if (← peek .lifetime) && !(← peek2 "+") then
    takeNext
    return true
  if ← peekAny [.literal, .group .brace] then
    constantArgument g
    return false
  let form ← g.type true
  if form == .name then
    if ← accept "=" then
      if ← peekAny [.literal, .group .brace] then constantArgument g
      else discard (g.type true)
    else if ← accept ":" then boundsUpTo g (peekAny [",", ">"])
  return false

end Grammar

end MethodBinding.Code
