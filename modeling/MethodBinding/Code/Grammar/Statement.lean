import MethodBinding.Code.Grammar.Basic

/-!
# Statements
-/

namespace MethodBinding.Code.Grammar

open MethodBinding.Code.Parser

variable (g : Grammar)

/-- What a path before an exclamation mark starts. -/
inductive MacroStart where
  /-- A macro in braces, which is a statement by itself. -/
  | statement
  /-- A macro that declares a name. -/
  | declaration
  | none
deriving DecidableEq

/-- The kind of the macro that comes next. -/
def peekMacro : Parser MacroStart := do
  match ← lookAhead (do plainPath; rest) with
  | some ts =>
    let body := afterOne ts
    let behind := afterOne body
    let starts (t : Terminal) (ts : List Token) : Bool := t.starts ts
    if !starts "!" ts then return .none
    else if starts .name body || starts "try" body then return .declaration
    else if !starts (.group .brace) body then return .none
    else if (starts "." behind && !starts ".." behind) || starts "?" behind then return .none
    else return .statement
  | none => return .none

/-- Whether a declaration comes next. -/
def peekDeclaration : Parser Bool := do
  let functionQualifiers : List Terminal := ["unsafe", "extern", "fn"]
  let second := afterOne (← rest)
  let third := afterOne second
  let startsAny (ts : List Token) (classes : List Terminal) : Bool := classes.any (·.starts ts)
  if ← peekAny ["pub", "extern", "use", "fn", "mod", "type", "struct", "enum", "trait", "impl",
      "macro"] then return true
  else if ← peek "crate" then return !startsAny second ["::"]
  else if ← peek "static" then
    return startsAny second ["mut"] ||
      (startsAny second [.name] && !(startsAny second ["async"] && startsAny third ["move", "|"]))
  else if ← peek "const" then
    return !(startsAny second [.group .brace, "static", "move", "|"] ||
      (startsAny second ["async"] && !startsAny third functionQualifiers))
  else if ← peek "unsafe" then return !startsAny second [.group .brace]
  else if ← peek "async" then return startsAny second functionQualifiers
  else if ← peek "union" then return startsAny second [.name]
  else if ← peek "auto" then return startsAny second ["trait"]
  else if ← peek "default" then return startsAny second ["unsafe", "impl"]
  else return false

/-- A binding of local names, perhaps with a block for values that do not fit the pattern. -/
def localBinding : Parser Unit := do
  take "let"
  discard g.pattern
  if ← accept ":" then discard (g.type true)
  if ← accept "=" then
    discard (g.expression true)
    let endsInBrace := (← get).written.head? == some (.closing .brace)
    if !endsInBrace && (← peek "else") then
      take "else"
      block g
  take ";"

/-- A statement; whether a semicolon is missing unless it is the last one. -/
def statement : Parser Bool := do
  discard (attributes g)
  let start ← peekMacro
  if start == .statement then
    plainPath
    take "!"
    wholeGroup
    skip ";"
    return false
  else if ← peek "let" then
    localBinding g
    return false
  else if start == .declaration || (← peekDeclaration) then
    g.declaration
    return false
  else
    let form ← g.statementExpression
    if ← accept ";" then return false
    return form != .block && form != .bracedMacro

/-- The statements up to the end of a block. -/
def statementsStep : Parser Unit :=
  repeatWhile do
    repeatWhile (accept ";")
    if ← atEnd then return false
    let isOpen ← statement g
    if ← atEnd then return false
    if isOpen then throw .statementEnd
    return true

end MethodBinding.Code.Grammar
