import MethodBinding.Code.Grammar.Basic

/-!
# Types
-/

namespace MethodBinding.Code.Grammar

open MethodBinding.Code.Parser

variable (g : Grammar)

/-- Whether a bound may follow a plus sign. -/
def peekBound : Parser Bool :=
  peekAny [.anyWord, "::", "?", .lifetime, .group .paren, .group .bracket]

/-- Further bounds, each behind a plus sign. The last plus sign may stand alone. -/
def furtherBounds (mayCapture : Bool) : Parser Bool := do
  let rec go (anyTrait : Bool) : Nat → Parser Bool
    | 0 => return anyTrait
    | n + 1 => do
      if !(← accept "+") then return anyTrait
      if !(← peekBound) then return anyTrait
      let isTrait ← bound g mayCapture
      go (anyTrait || isTrait) n
  go false (extent (← rest))

/-- Bounds behind a keyword, one of which must be a trait. -/
def traitBounds (inObject plus : Bool) : Parser Unit := do
  let isTrait ← bound g (!inObject)
  let anyTrait ← if plus then furtherBounds g (!inObject) else pure false
  if !(isTrait || anyTrait) then throw (.noTrait inObject)

/-- A parameter of a function type. The first one may be a receiver. -/
def functionTypeParameter (isFirst : Bool) : Parser Unit := do
  discard (attributes g)
  let isMutSelf := isFirst && (← peek "mut") && (← peek2 "self")
  if isMutSelf then take "mut"
  let isNamed := ((← peekAny [.name, "_"]) || (isFirst && (← peek "self"))) &&
    (← peek2 ":") && !(← peek2 "::")
  if isNamed then
    takeNext
    take ":"
    discard (g.type true)
  else if isMutSelf then take "self"
  else discard (g.type true)

/-- The parameters of a function type. -/
def functionTypeParameters : Parser Unit := do
  let start := extent (← rest)
  separated do
    let isVariadic := (← peek "...") ||
      ((← peekAny [.name, "_"]) && (← peek2 ":") && (← peek3 "..."))
    if isVariadic then
      if !(← peek "...") then
        takeNext
        take ":"
      take "..."
      skip ","
    else functionTypeParameter g (extent (← rest) == start)

/-- The type of a function, behind its binder. -/
def functionType : Parser Unit := do
  skip "unsafe"
  if ← accept "extern" then
    match ← rest with
    | .string _ :: _ => takeNext
    | _ => pure ()
  take "fn"
  group .paren (functionTypeParameters g)
  discard (returnType g false)

/-- A type in parentheses, a tuple of types, or traits the first of which is in parentheses. -/
def parenType (plus : Bool) : Parser TypeForm := do
  let inner : Parser TypeForm := do
    if ← atEnd then return .other
    if ← peek .lifetime then
      discard (g.type true)
      return .paren
    if ← peek "?" then
      traitBound g
      return .traits
    let first ← g.type true
    if ← accept "," then
      separated (discard (g.type true))
      return .other
    return if first == .name || first == .path || first == .traits then .traits else .paren
  let form ← group .paren inner
  if form == .traits then
    if plus && (← peek "+") then
      discard (furtherBounds g false)
      return .traits
    else return .paren
  else return form

/-- A path as a type; its last segment may take arguments in parentheses. -/
def pathType : Parser PathForm := do
  let rec go (form : PathForm) : Nat → Parser PathForm
    | 0 => return form
    | n + 1 => do
      if !(form.endsPlain && (← peekParenArguments)) then return form
      let mayGoOn ← takeParenArguments g
      let form := { form with isPlain := false, endsPlain := false, isParen := true }
      if mayGoOn then
        let longer ← furtherSegments g false form
        if longer.segments == form.segments then return form else go longer n
      else return form
  go (← qualifiedPath g false) (extent (← rest))

/-- A type that starts with a path, behind its binder. -/
def pathOrTraits (hasBinder plus : Bool) : Parser TypeForm := do
  let form ← pathType g
  if form.isQualified then return .other
  if (← peek "!") && !(← peek "!=") && form.isPlain then
    take "!"
    wholeGroup
    return .other
  if hasBinder || (plus && (← peek "+")) then
    if plus then discard (furtherBounds g false)
    return .traits
  return if !form.isGlobal && form.segments == 1 && !form.isParen then .name else .path

/-- A pointer. -/
def pointerType : Parser Unit := do
  take "*"
  if ← peekAny ["const", "mut"] then takeNext else failExpectingOne ["const", "mut"]
  discard (g.type false)

/-- A reference. -/
def referenceType : Parser Unit := do
  take "&"
  skip .lifetime
  skip "mut"
  discard (g.type false)

/-- An array or a slice. -/
def bracketType : Parser Unit := group .bracket do
  discard (g.type true)
  if ← accept ";" then discard (g.expression true)

/-- What a type may start with, in the order in which messages name it. -/
def typeStarts : List Terminal :=
  [.group .paren, "fn", "unsafe", "extern", .name, "::", "<", "dyn", .group .bracket, "*", "&",
    "!", "impl", "_", .lifetime]

/-- What a type may start with behind a binder. -/
def boundTypeStarts : List Terminal :=
  [.name, "fn", "unsafe", "extern", "super", "self", "Self", "crate"]

/-- A type. -/
def typeStep (plus : Bool) : Parser TypeForm := do
  let hasBinder ← peek "for"
  if hasBinder then
    lifetimeBinder g
    if !(← peekAny boundTypeStarts) then failExpectingOne boundTypeStarts
  if ← peek (.group .paren) then parenType g plus
  else if ← peekAny ["fn", "unsafe", "extern"] then
    functionType g
    return .other
  else if ← peekAny [.name, "super", "self", "Self", "crate", "::", "<"] then
    pathOrTraits g hasBinder plus
  else
    if ← peek "dyn" then
      if ← peek2 "*" then verbatim do
        take "dyn"
        take "*"
        traitBounds g true plus
      else
        take "dyn"
        traitBounds g true plus
    else if ← peek (.group .bracket) then bracketType g
    else if ← peek "*" then pointerType g
    else if ← peek "&" then referenceType g
    else if (← peek "!") && !(← peek "=") then take "!"
    else if ← peek "impl" then
      take "impl"
      traitBounds g false plus
    else if ← peek "_" then takeNext
    else if ← peek .lifetime then traitBounds g true true
    else failExpectingOne ("for" :: typeStarts)
    return .other

end MethodBinding.Code.Grammar
