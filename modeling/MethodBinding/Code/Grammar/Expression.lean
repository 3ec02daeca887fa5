import MethodBinding.Code.Grammar.Pattern
import MethodBinding.Code.Grammar.Type

/-!
# Expressions

Operands are joined by binary operators, which bind by their `Precedence`. An operand is an atom
(`atom`) with operators before it and calls, fields, indices and question marks behind it.
-/

namespace MethodBinding.Code.Grammar

open MethodBinding.Code.Parser

variable (g : Grammar)

/-! ## Operators -/

/-- The binary operators, each before those that it starts with. -/
def operators : List (String × Precedence) :=
  [("+=", .assign), ("-=", .assign), ("*=", .assign), ("/=", .assign), ("%=", .assign),
    ("^=", .assign), ("&=", .assign), ("|=", .assign), ("<<=", .assign), (">>=", .assign),
    ("&&", .and), ("||", .or), ("<<", .shift), (">>", .shift), ("==", .compare), ("<=", .compare),
    ("!=", .compare), (">=", .compare), ("+", .sum), ("-", .sum), ("*", .product), ("/", .product),
    ("%", .product), ("^", .bitXor), ("&", .bitAnd), ("|", .bitOr), ("<", .compare),
    (">", .compare)]

/-- The binary operator that comes next. -/
def peekOperator : Parser (Option (String × Precedence)) := do
  let ts ← rest
  return operators.find? fun o => (Terminal.mark o.1).starts ts

/-- How strongly what comes next binds, if it is an operator of any kind. -/
def peekPrecedence : Parser (Option Precedence) := do
  if let some (_, p) ← peekOperator then return some p
  else if (← peek "=") && !(← peek "=>") then return some .assign
  else if ← peek ".." then return some .range
  else if ← peek "as" then return some .cast
  else return none

/-- A right operand of an operator, with all that binds more strongly. -/
def rightSide (structs : Bool) (operator : Precedence) : Parser ExpressionForm := do
  let form ← g.operand structs
  g.rightOperand structs operator form

/-- What follows a right operand as far as it binds more strongly than `operator`. Assignments group
from the right. -/
def rightOperandStep (structs : Bool) (operator : Precedence) (right : ExpressionForm) :
    Parser ExpressionForm := do
  match ← peekPrecedence with
  | none => return right
  | some next =>
    if operator.rank < next.rank || (next == operator && operator == .assign) then
      let before := extent (← rest)
      let form ← g.continuation structs next right
      if extent (← rest) == before then return form
      g.rightOperand structs operator form
    else return right

/-- What an open range may be followed by. -/
def afterOpenRange : List Terminal :=
  [",", ";", "?", "=>", "=", "+", "/", "%", "^", ">", "<=", "!=", "-=", "*=", "&=", "|=", "<<=",
    "as"]

/-- The dots and the upper bound of a range. -/
def rangeTail (structs : Bool) : Parser Unit := do
  let isOpen ←
    if ← accept "..=" then pure false
    else if ← peek "..." then failExpectingOne ["..", "..="]
    else
      take ".."
      let isDot := (← peek ".") && !(← peek "..")
      let isBody := !structs && (← peek (.group .brace))
      pure ((← atEnd) || isDot || isBody || (← peekAny afterOpenRange))
  if !isOpen then discard (rightSide g structs .range)

/-- A cast cannot be followed by what it would have to be in parentheses for. -/
def checkCast : Parser Unit := do
  if (← peek ".") && !(← peek "..") then
    if ← peek2 "await" then throw (.afterCast "`.await`")
    else if (← peek2 .name) && ((← peek3 (.group .paren)) || (← peek3 "::")) then
      throw (.afterCast "a method call")
    else throw (.afterCast "a field access")
  else if ← peek "?" then throw (.afterCast "`?`")
  else if ← peek (.group .bracket) then throw (.afterCast "indexing")
  else if ← peek (.group .paren) then throw (.afterCast "a function call")

/-- What follows a left operand as far as it binds at least as strongly as `base`. A range is no
left operand, and comparisons do not follow each other. -/
def continuationStep (structs : Bool) (base : Precedence) (left : ExpressionForm) :
    Parser ExpressionForm := do
  if left == .range then return left
  match ← peekOperator with
  | some (operator, p) =>
    if p.rank < base.rank then return left
    if p == .compare && left == .comparison then throw .chainedComparison
    take (.mark operator)
    discard (rightSide g structs p)
    g.continuation structs base (if p == .compare then .comparison else .other)
  | none =>
    if base.rank ≤ Precedence.assign.rank && (← peek "=") && !(← peek "=>") then
      take "="
      discard (rightSide g structs .assign)
      g.continuation structs base .other
    else if base.rank ≤ Precedence.range.rank && (← peek "..") then
      rangeTail g structs
      return .range
    else if base.rank ≤ Precedence.cast.rank && (← peek "as") then
      take "as"
      discard (g.type false)
      checkCast
      g.continuation structs base .other
    else return left

/-- An expression. -/
def expressionStep (structs : Bool) : Parser ExpressionForm := do
  let form ← g.operand structs
  g.continuation structs .jump form

/-! ## Closures -/

/-- A parameter of a closure. -/
def closureParameter : Parser Unit := do
  discard (attributes g)
  discard g.pattern
  if ← accept ":" then discard (g.type true)

/-- A closure. One with a return type has a block as its body. -/
def closure (structs : Bool) : Parser Unit := do
  if ← peek "for" then lifetimeBinder g
  skip "const"
  skip "static"
  skip "async"
  skip "move"
  take "|"
  separatedUpTo (peek "|") (closureParameter g)
  take "|"
  if ← accept "->" then
    discard (g.type true)
    block g
  else discard (g.expression structs)

/-- Whether parameters in angle brackets follow a word, and not a path within a type. -/
def peekBinder : Parser Bool := do
  let after := afterOne (← rest)
  let second := afterOne after
  let third := afterOne second
  let startsAny (ts : List Token) (classes : List Terminal) : Bool := classes.any (·.starts ts)
  return startsAny after ["<"] &&
    (startsAny second [">", "#", "const"] ||
      (startsAny second [.lifetime, .name] &&
        (startsAny third [">", ",", "="] || (startsAny third [":"] && !startsAny third ["::"]))))

/-! ## Paths, macros and structures -/

/-- A field of a structure. -/
def fieldValue : Parser Unit := do
  discard (attributes g)
  let isNamed ← takeMember
  if (← peek ":") || !isNamed then
    take ":"
    discard (g.expression true)

/-- The fields of a structure; those not given may come from another value. -/
def fieldValues : Parser Unit :=
  repeatWhile do
    if ← atEnd then return false
    if ← accept ".." then
      if !(← atEnd) then discard (g.expression true)
      return false
    fieldValue g
    if ← atEnd then return false
    take ","
    return true

/-- A path, or a macro or a structure that starts with one. -/
def pathExpression (structs : Bool) : Parser ExpressionForm := do
  let form ← qualifiedPath g true
  if !form.isQualified && form.isPlain && (← peek "!") && !(← peek "!=") then
    take "!"
    let isBraced ← peek (.group .brace)
    wholeGroup
    return if isBraced then .bracedMacro else .other
  if structs && (← peek (.group .brace)) then group .brace (fieldValues g)
  return .other

/-! ## Control structures -/

/-- A condition or a subject: no structure literal, whose brace would open the body. -/
def condition : Parser Unit := discard (g.expression false)

/-- A choice between blocks. -/
def ifExpression : Parser Unit :=
  repeatWhile do
    take "if"
    condition g
    block g
    if !(← accept "else") then return false
    if ← peek "if" then return true
    else if ← peek (.group .brace) then
      block g
      return false
    else failExpectingOne ["if", .group .brace]

/-- A loop, behind its label. -/
def loopExpression : Parser Unit := do
  if ← accept "while" then condition g
  else if ← accept "for" then
    discard (alternatives g)
    take "in"
    condition g
  else take "loop"
  bodyBlock g

/-- A loop or a block with a label. -/
def labelled : Parser Unit := do
  take .lifetime
  take ":"
  if ← peekAny ["while", "for", "loop"] then loopExpression g
  else if ← peek (.group .brace) then bodyBlock g
  else failExpecting ["loop or block expression"]

/-- An arm of a case distinction. Its comma may be missing behind a block and at the end. -/
def arm : Parser Unit := do
  discard (attributes g)
  discard (alternatives g)
  if ← accept "if" then discard (g.expression true)
  take "=>"
  let form ← g.statementExpression
  if form == .block || (← atEnd) then skip "," else take ","

/-- A case distinction. -/
def matchExpression : Parser Unit := do
  take "match"
  condition g
  group .brace do
    innerAttributes g
    repeatWhile do
      if ← atEnd then return false
      arm g
      return true

/-- A control structure or a block, if one comes next; whether it does. -/
def blockExpression : Parser Bool := do
  if ← peek "if" then ifExpression g
  else if (← peekAny ["while", "loop"]) || ((← peek "for") && !(← peekBinder)) then
    loopExpression g
  else if ← peek "match" then matchExpression g
  else if (← peek "try") && (← peek2 (.group .brace)) then
    take "try"
    block g
  else if ← peek "unsafe" then
    take "unsafe"
    bodyBlock g
  else if (← peek "const") && (← peek2 (.group .brace)) then
    take "const"
    bodyBlock g
  else if ← peek (.group .brace) then bodyBlock g
  else if ← peek .lifetime then labelled g
  else return false
  return true

/-! ## Jumps -/

/-- Whether an expression comes next. -/
def peekExpression : Parser Bool := do
  let startsOnly (m : Terminal) (longer : List Terminal) : Parser Bool := do
    return (← peek m) && !(← peekAny longer)
  return (← startsOnly .anyWord ["as"]) || (← startsOnly "!" ["!="]) ||
    (← startsOnly "-" ["-=", "->"]) || (← startsOnly "*" ["*="]) || (← startsOnly "|" ["|="]) ||
    (← startsOnly "&" ["&="]) || (← startsOnly "<" ["<=", "<<="]) ||
    (← peekAny [.group .paren, .group .bracket, .group .brace]) ||
    (← peekAny [.literal, .lifetime, "..", "::", "#"])

/-- An expression, if one comes next. -/
def optionalExpression : Parser Unit := do
  if ← peekExpression then discard (g.expression true)

/-- The end of a loop or a block. A label before a colon would be that of what follows. -/
def breakExpression (structs : Bool) : Parser Unit := do
  take "break"
  if (← peek .lifetime) && (← peek2 ":") then
    discard (g.expression true)
    throw .labelledBreak
  skip .lifetime
  if structs || !(← peek (.group .brace)) then optionalExpression g

/-! ## Atoms -/

/-- Items in brackets, or one and the number of its repetitions. -/
def bracketExpression : Parser Unit := group .bracket do
  if ← atEnd then return
  discard (g.expression true)
  if ← atEnd then return
  if ← accept "," then separated (discard (g.expression true))
  else if ← accept ";" then discard (g.expression true)
  else failExpecting ["`,` or `;`"]

/-- An expression in parentheses, or several. -/
def parenExpression : Parser Unit := group .paren do
  separated (discard (g.expression true))

/-- Whether a closure comes next. -/
def peekClosure : Parser Bool := do
  return (← peekAny ["|", "move", "static"]) || ((← peek "for") && (← peekBinder)) ||
    ((← peek "const") && !(← peek2 (.group .brace))) ||
    ((← peek "async") && ((← peek2 "|") || (← peek2 "move")))

/-- Whether a path comes next. -/
def peekPath : Parser Bool := do
  return (← peekAny [.name, "::", "<", "self", "Self", "super", "crate"]) ||
    ((← peek "try") && ((← peek2 "!") || (← peek2 "::")))

/-- An expression without operators around it. -/
def atom (structs : Bool) : Parser ExpressionForm := do
  if ← blockExpression g then return .block
  if ← peek ".." then
    rangeTail g structs
    return .range
  let isAsyncBlock := (← peek "async") &&
    ((← peek2 (.group .brace)) || ((← peek2 "move") && (← peek3 (.group .brace))))
  if ← peek .literal then take .literal
  else if isAsyncBlock then
    take "async"
    skip "move"
    block g
  else if ← peekClosure then closure g structs
  else if (← peek "builtin") && (← peek2 "#") then verbatim do
    take "builtin"
    take "#"
    take .name
    group .paren (repeatWhile do
      if ← atEnd then return false
      takeNext
      return true)
  else if ← peekPath then return ← pathExpression g structs
  else if ← peek (.group .paren) then parenExpression g
  else if ← peek "break" then breakExpression g structs
  else if ← accept "continue" then skip .lifetime
  else if ← peekAny ["return", "yield"] then
    takeNext
    optionalExpression g
  else if ← peek "become" then verbatim do
    take "become"
    discard (g.expression true)
  else if ← peek (.group .bracket) then bracketExpression g
  else if ← accept "let" then
    discard (alternatives g)
    take "="
    discard (rightSide g structs .condition)
  else if ← peek "_" then takeNext
  else failExpecting ["an expression"]
  return .other

/-! ## Operands -/

/-- The indices of nested tuples, which look like a number with a fraction; whether it ends in a
point. -/
def nestedIndices (number : String) : Parser Bool := do
  let parts := number.splitOn "."
  let endsInPoint := parts.getLast? == some ""
  discard (collect takeNext)
  let tokens ← (parts.filter (· != "")).mapM fun part =>
    match tokens? part with
    | some [.integer _ n suffix] => indexToken n suffix
    | _ => throw (.expected ["integer literal"] false)
  (tokens.intersperse (.mark ".")).forM emit
  if endsInPoint then emit (.mark ".")
  return endsInPoint

/-- What stands behind a point: indices, a field, or a method with its arguments. -/
def memberAccess : Parser Unit := do
  take "."
  match ← rest with
  | .literal w :: _ =>
    if w.toList.head?.any Char.isDigit then
      if !(← nestedIndices w) then return
  | _ => pure ()
  if ← accept "await" then return
  let isNamed ← takeMember
  let hasArguments := isNamed && (← peek "::")
  if hasArguments then
    take "::"
    angles g.argument
  if hasArguments || (isNamed && (← peek (.group .paren))) then parenExpression g

/-- What follows an atom: calls, fields, indices and question marks, at most `n`. -/
def trailers (form : ExpressionForm) : Nat → Parser ExpressionForm
  | 0 => return form
  | n + 1 => do
    if ← peek (.group .paren) then
      parenExpression g
      trailers .other n
    else if (← peek ".") && !(← peek "..") && form != .range then
      memberAccess g
      trailers .other n
    else if ← peek (.group .bracket) then
      group .bracket (discard (g.expression true))
      trailers .other n
    else if (← peek "?") && form != .range then
      take "?"
      trailers .other n
    else return form

/-- An operand with the operators before it and the calls and fields behind it. -/
def operandStep (structs : Bool) : Parser ExpressionForm := do
  let hasAttributes ← attributes g
  if ← accept "&" then
    if (← peek "raw") && ((← peek2 "mut") || (← peek2 "const")) then
      takeNext
      takeNext
    else skip "mut"
    discard (g.operand structs)
    return .other
  else if ← acceptAny ["*", "!", "-"] then
    discard (g.operand structs)
    return .other
  else
    let form ← atom g structs
    let form ← trailers g form (extent (← rest))
    if hasAttributes && form == .range then throw .rangeAttributes
    return form

/-- An expression that ends where a statement does: an operator behind a block does not join it. -/
def statementExpressionStep : Parser ExpressionForm := do
  discard (attributes g)
  let isBlock ← blockExpression g
  if !isBlock then
    let form ← g.operand true
    g.continuation true .jump form
  else if ((← peek ".") && !(← peek "..")) || (← peek "?") then
    let form ← trailers g .block (extent (← rest))
    g.continuation true .jump form
  else return .block

end MethodBinding.Code.Grammar
