import MethodBinding.Code.Grammar.Basic

/-!
# Patterns
-/

namespace MethodBinding.Code.Grammar

open MethodBinding.Code.Parser

variable (g : Grammar)

/-- Patterns with bars between them, and perhaps one before the first. -/
def alternatives : Parser PatternForm := do
  let hasBar ← accept "|"
  let form ← g.pattern
  let more : Parser Bool := do
    return (← peek "|") && !(← peek "||") && !(← peek "|=")
  if !hasBar && !(← more) then return form
  repeatWhile do
    if !(← more) then return false
    take "|"
    discard g.pattern
    return true
  return .other

/-- What a bound of a range may start with. -/
def rangeBoundStarts : List Terminal :=
  [.literal, .name, "::", "<", "self", "Self", "super", "crate", "const"]

/-- A bound of a range; whether there is one. -/
def rangeBound : Parser Bool := do
  let ends := (← atEnd) || (← peekAny ["|", "=", ",", ";", "if"]) ||
    ((← peek ":") && !(← peek "::"))
  if ends then return false
  if ← peek .literal then take .literal
  else if ← peek "const" then
    take "const"
    bodyBlock g
  else if ← peekAny rangeBoundStarts then discard (qualifiedPath g true)
  else failExpectingOne rangeBoundStarts
  return true

/-- The dots of a range; whether the upper bound belongs to it. Three dots are written as a range
that includes its bound. -/
def rangeDots : Parser Bool := do
  if ← accept "..=" then return true
  else if ← peek "..." then
    discard (collect (take "..."))
    emit (.mark "..=")
    return true
  else if ← accept ".." then return false
  else failExpectingOne ["..", "..="]

/-- The dots and the upper bound of a range. -/
def rangeEnd : Parser PatternForm := do
  let closed ← rangeDots
  let hasEnd ← rangeBound g
  if closed && !hasEnd then failExpecting ["range upper bound"]
  return if hasEnd then .other else .openRange

/-- A field in the pattern of a structure. -/
def fieldPattern : Parser Unit := do
  if ← peekAny ["box", "ref", "mut"] then
    skip "box"
    skip "ref"
    skip "mut"
    take .name
  else
    let isNamed ← takeMember
    if (← peek ":") || !isNamed then
      take ":"
      discard (alternatives g)

/-- The fields in the pattern of a structure, the last of which may be two dots. -/
def fieldPatterns : Parser Unit :=
  repeatWhile do
    if ← atEnd then return false
    discard (attributes g)
    if ← accept ".." then return false
    fieldPattern g
    if ← atEnd then return false
    take ","
    return true

/-- A pattern that starts with a path. -/
def pathPattern : Parser PatternForm := do
  let form ← qualifiedPath g true
  if !form.isQualified && form.isPlain && (← peek "!") && !(← peek "!=") then
    take "!"
    wholeGroup
    return .other
  if ← peek (.group .brace) then group .brace (fieldPatterns g)
  else if ← peek (.group .paren) then
    group .paren (separated (discard (alternatives g)))
  else if ← peek ".." then return ← rangeEnd g
  return .other

/-- A name that is bound, perhaps to what a further pattern describes. -/
def bindingPattern : Parser Unit := do
  skip "ref"
  skip "mut"
  if ← peek "self" then takeNext else takeName
  if ← accept "@" then discard g.pattern

/-- A slice. A range without one of its ends needs parentheses there. -/
def slicePattern : Parser Unit := group .bracket do
  separated do
    let form ← alternatives g
    if form == .openRange then throw .openRange

/-- A pattern without alternatives. -/
def patternStep : Parser PatternForm := do
  let isPath :=
    ((← peek .name) && ((← peek2 "::") || (← peek2 "!") || (← peek2 (.group .brace)) ||
        (← peek2 (.group .paren)) || (← peek2 ".."))) ||
      ((← peek "self") && (← peek2 "::")) ||
      (← peekAny ["::", "<", "Self", "super", "crate"])
  if isPath then pathPattern g
  else if ← peek "_" then
    takeNext
    return .other
  else if ← peek "box" then
    verbatim do
      take "box"
      discard g.pattern
    return .other
  else if ← peekAny ["-", .literal, "const"] then
    discard (rangeBound g)
    if ← peek ".." then rangeEnd g else return .other
  else if ← peekAny ["ref", "mut", "self", .name] then
    bindingPattern g
    return .other
  else if ← accept "&" then
    skip "mut"
    discard g.pattern
    return .other
  else if ← peek (.group .paren) then
    group .paren (separated (discard (alternatives g)))
    return .other
  else if ← peek (.group .bracket) then
    slicePattern g
    return .other
  else if (← peek "..") && !(← peek "...") then
    let form ← rangeEnd g
    return if form == .openRange then .rest else .openRange
  else
    failExpectingOne
      [.name, "::", "<", "_", .literal, "const", "ref", "mut", "&", .group .paren, .group .bracket,
        ".."]

end MethodBinding.Code.Grammar
