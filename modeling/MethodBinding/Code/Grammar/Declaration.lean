import MethodBinding.Code.Grammar.Type
import MethodBinding.Code.Grammar.Pattern

/-!
# Declarations

Declarations within blocks: functions, constants, types and the names that are brought into scope.
Traits, their implementations and other declarations with a body are kept as they are written.
-/

namespace MethodBinding.Code.Grammar

open MethodBinding.Code.Parser

variable (g : Grammar)

/-! ## Visibility, parameters and conditions -/

/-- The visibility of what is declared. -/
def visibility : Parser Unit := do
  if ← accept "pub" then
    if ← peek (.group .paren) then
      match ← rest with
      | .opening _ :: .word w :: ts =>
        if w == "in" || (w ∈ ["crate", "self", "super"] && isEnd ts) then wholeGroup
      | _ => pure ()

/-- The kinds of parameters of a declaration. -/
def parameterStarts : List Terminal := [.lifetime, .name, "const"]

/-- A parameter of a declaration; whether it is a lifetime. -/
def genericParameter : Parser Bool := do
  discard (attributes g)
  if ← accept .lifetime then
    if ← accept ":" then
      boundsUpTo g (peekAny [",", ">"])
    return true
  else if ← accept "const" then
    take .name
    take ":"
    discard (g.type true)
    if ← accept "=" then constantArgument g
    return false
  else if ← peekAny [.name, "_"] then
    takeNext
    if ← accept ":" then
      boundsUpTo g (peekAny [",", ">", "="])
    if ← accept "=" then discard (g.type true)
    return false
  else failExpectingOne parameterStarts

/-- The parameters of a declaration. Lifetimes are written first. -/
def genericParameters : Parser Unit := do
  if ← peek "<" then angles (genericParameter g)

/-- Whether the conditions on parameters end. -/
def peekConditionEnd : Parser Bool := do
  return (← atEnd) || (← peekAny [.group .brace, ",", ";", "="]) ||
    ((← peek ":") && !(← peek "::"))

/-- A condition on a parameter. -/
def whereCondition : Parser Unit := do
  if (← peek .lifetime) && (← peek2 ":") then takeNext
  else
    if ← peek "for" then lifetimeBinder g
    discard (g.type true)
  take ":"
  boundsUpTo g peekConditionEnd

/-- The conditions on the parameters of a declaration. -/
def whereClause : Parser Unit := do
  if ← accept "where" then
    repeatWhile do
      if ← peekConditionEnd then return false
      whereCondition g
      accept ","

/-! ## Functions -/

/-- A receiver of a method. -/
def receiver : Parser Unit := do
  if ← accept "&" then skip .lifetime
  skip "mut"
  take "self"
  if ← accept ":" then discard (g.type true)

/-- A parameter of a function. -/
def functionParameter : Parser Unit := do
  discard (attributes g)
  if (← lookAhead (receiver g)).isSome then receiver g
  else
    discard g.pattern
    take ":"
    if ← peek "..." then take "..." else discard (g.type true)

/-- A function. -/
def functionDeclaration : Parser Unit := do
  skip "const"
  skip "async"
  skip "unsafe"
  if ← accept "extern" then
    match ← rest with
    | .string _ :: _ => takeNext
    | _ => pure ()
  take "fn"
  take .name
  genericParameters g
  group .paren (separated (functionParameter g))
  discard (returnType g true)
  whereClause g
  if ← peek ";" then take ";" else bodyBlock g

/-! ## Constants and types -/

/-- A constant or a variable, with its type and its value. -/
def constant : Parser Unit := do
  if ← accept "static" then skip "mut" else take "const"
  if ← peekAny [.name, "_"] then takeNext else failExpectingOne [.name, "_"]
  if ← accept ":" then discard (g.type true)
  if ← accept "=" then discard (g.expression true)
  take ";"

/-- A name for a type. -/
def typeAlias : Parser Unit := do
  take "type"
  take .name
  genericParameters g
  if ← accept ":" then boundsUpTo g peekConditionEnd
  whereClause g
  if ← accept "=" then discard (g.type true)
  whereClause g
  take ";"

/-- A field with a name. -/
def namedField : Parser Unit := do
  discard (attributes g)
  visibility
  take .name
  take ":"
  discard (g.type true)

/-- A field without a name. -/
def namelessField : Parser Unit := do
  discard (attributes g)
  visibility
  discard (g.type true)

/-- A structure. -/
def structDeclaration : Parser Unit := do
  take "struct"
  take .name
  genericParameters g
  whereClause g
  if ← peek (.group .brace) then group .brace (separated (namedField g))
  else
    if ← peek (.group .paren) then
      group .paren (separated (namelessField g))
      whereClause g
    take ";"

/-- A variant of an enumeration. -/
def variant : Parser Unit := do
  discard (attributes g)
  visibility
  take .name
  if ← peek (.group .brace) then group .brace (separated (namedField g))
  else if ← peek (.group .paren) then group .paren (separated (namelessField g))
  if ← accept "=" then discard (g.expression true)

/-- An enumeration. -/
def enumDeclaration : Parser Unit := do
  take "enum"
  take .name
  genericParameters g
  whereClause g
  group .brace (separated (variant g))

/-! ## Scopes -/

/-- Names that are brought into scope. -/
def useTreeStep : Parser Unit := do
  if ← peekAny [.name, "self", "super", "crate", "try"] then
    takeNext
    if ← accept "::" then g.useTree
    else if ← accept "as" then
      if ← peekAny [.name, "_"] then takeNext else failExpectingOne [.name, "_"]
  else if ← accept "*" then return
  else if ← peek (.group .brace) then
    group .brace (separated (do skip "::"; g.useTree))
  else failExpectingOne [.name, "self", "super", "crate", "try", "*", .group .brace]

/-- Brings names into scope. -/
def useDeclaration : Parser Unit := do
  take "use"
  skip "::"
  g.useTree
  take ";"

/-- A module. -/
def moduleDeclaration : Parser Unit := do
  take "mod"
  if ← peek "try" then takeNext else takeName
  if ← accept ";" then return
  group .brace do
    innerAttributes g
    repeatWhile do
      if ← atEnd then return false
      discard (attributes g)
      g.declaration
      return true

/-- A macro that declares a name. -/
def macroDeclaration : Parser Unit := do
  plainPath
  take "!"
  if ← peekAny [.name, "try"] then takeNext
  let isBraced ← peek (.group .brace)
  wholeGroup
  if !isBraced then take ";"

/-- A declaration as it is, up to its body or a semicolon. -/
def unreadDeclaration : Parser Unit := do
  repeatWhile do
    if ← atEnd then failExpectingOne [.group .brace, ";"]
    let ends ← peekAny [.group .brace, ";"]
    if ← peek ";" then take ";"
    else if ← peekAny [.group .paren, .group .bracket, .group .brace] then wholeGroup
    else takeNext
    return !ends

/-- A declaration behind its attributes. -/
def declarationStep : Parser Unit := do
  visibility
  let second := afterOne (← rest)
  let startsAny (ts : List Token) (classes : List Terminal) : Bool := classes.any (·.starts ts)
  let isFunction := (← peek "fn") ||
    ((← peekAny ["const", "async", "unsafe"]) &&
      startsAny second ["fn", "async", "unsafe", "extern"]) ||
    ((← peek "extern") && (startsAny second ["fn"] || startsAny (afterOne second) ["fn"]))
  if isFunction then functionDeclaration g
  else if ← peekAny ["const", "static"] then constant g
  else if ← peek "use" then useDeclaration g
  else if ← peek "type" then typeAlias g
  else if ← peek "struct" then structDeclaration g
  else if ← peek "enum" then enumDeclaration g
  else if ← peek "mod" then moduleDeclaration g
  else if ← peekAny ["extern", "trait", "impl", "unsafe", "union", "auto", "default", "macro"] then
    unreadDeclaration
  else macroDeclaration

end MethodBinding.Code.Grammar
