import MethodBinding.Code.Lexer

/-!
# Reading tokens by a grammar

A `Parser` takes tokens from the front of a list and writes them again, one by one. What it writes
differs from what it takes in that punctuation is cut up as it was understood: two reference
operators that stood together become two marks. A parser ends with the first fault; only tokens
that are left over at the end of a group are put aside, and count if nothing else is wrong.
-/

namespace MethodBinding.Code

/-! ## Faults -/

/-- What is wrong with code. -/
inductive Fault where
  /-- Something else has to stand here, or, at the end of a group, has to follow. -/
  | expected (things : List String) (atEnd : Bool)
  | keyword (word : String)
  | chainedComparison
  | afterCast (what : String)
  | labelledBreak
  | rangeAttributes
  | statementEnd
  | openRange
  | noTrait (inObject : Bool)
  | binderWithMark
  | misplacedCapture
  | nestedAttribute
  | indexSuffix
  | indexTooLarge
  | negativeIndex
  | surplus (group : Delimiter)
  | literalItem
  | otherItem
deriving DecidableEq

/-- The end of a list of alternatives. -/
def Fault.alternatives : List String → String
  | [] => "unexpected token"
  | [a] => "expected " ++ a
  | [a, b] => "expected " ++ a ++ " or " ++ b
  | things => "expected one of: " ++ ", ".intercalate things

def Fault.message : Fault → String
  | expected things atEnd =>
    (if atEnd then "unexpected end of input, " else "") ++ alternatives things
  | keyword word => "expected identifier, found keyword `" ++ word ++ "`"
  | chainedComparison => "comparison operators cannot be chained"
  | afterCast what => "casts cannot be followed by " ++ what
  | labelledBreak => "parentheses required"
  | rangeAttributes => "attributes are not allowed on range expressions starting with `..`"
  | statementEnd => "unexpected token, expected `;`"
  | openRange => "range pattern is not allowed unparenthesized inside a slice pattern"
  | noTrait true => "at least one trait is required for an object type"
  | noTrait false => "at least one trait must be specified"
  | binderWithMark => "`for<...>` binder not allowed with `?` trait polarity modifier"
  | misplacedCapture => "`use<...>` precise capturing syntax is not allowed here"
  | nestedAttribute => "unexpected attribute inside of attribute"
  | indexSuffix => "expected unsuffixed integer"
  | indexTooLarge => "number too large to fit in target type"
  | negativeIndex => "invalid digit found in string"
  | surplus d => "unexpected token, expected `" ++ d.closing ++ "`"
  | literalItem => "unexpected literal in nested attribute, expected ident"
  | otherItem => "unexpected token in nested attribute, expected ident"

/-! ## Looking ahead -/

/-- Words that are not names. -/
def keywords : List String :=
  ["_", "abstract", "as", "async", "await", "become", "box", "break", "const", "continue", "crate",
    "do", "dyn", "else", "enum", "extern", "false", "final", "fn", "for", "if", "impl", "in", "let",
    "loop", "macro", "match", "mod", "move", "mut", "override", "priv", "pub", "ref", "return",
    "Self", "self", "static", "struct", "super", "trait", "true", "try", "type", "typeof", "unsafe",
    "unsized", "use", "virtual", "where", "while", "yield"]

/-- A class of tokens that a parser may look for. -/
inductive Terminal where
  /-- Punctuation; more of it may follow at once. -/
  | mark (text : String)
  | word (w : String)
  /-- A word that is no keyword. -/
  | name
  | anyWord
  /-- A literal; truth values and numbers with a sign count as such. -/
  | literal
  | lifetime
  | group (d : Delimiter)

namespace Terminal

/-- The word or the mark that is written so. -/
def ofText (s : String) : Terminal :=
  match s.toList with
  | c :: _ => if Lexer.isWordStart c then word s else mark s
  | [] => mark s

instance : Coe String Terminal := ⟨ofText⟩

/-- A class of tokens in a message. -/
def title : Terminal → String
  | mark s | word s => "`" ++ s ++ "`"
  | name => "identifier"
  | anyWord => "identifier"
  | literal => "literal"
  | lifetime => "lifetime"
  | group .paren => "parentheses"
  | group .bracket => "square brackets"
  | group .brace => "curly braces"

/-- Whether tokens start with one of the class. -/
def starts : Terminal → List Token → Bool
  | mark m, .mark run :: _ => m.toList.isPrefixOf run.toList
  | word w, .word v :: _ => w == v
  | name, .word v :: _ => v ∉ keywords
  | anyWord, .word _ :: _ => true
  | literal, .word v :: _ => v == "true" || v == "false"
  | literal, .string _ :: _ => true
  | literal, .integer _ _ _ :: _ => true
  | literal, .literal _ :: _ => true
  | literal, .mark "-" :: .integer _ _ _ :: _ => true
  | literal, .mark "-" :: .literal w :: _ => w.toList.head?.any Char.isDigit
  | lifetime, .lifetime _ :: _ => true
  | group d, .opening d' :: _ => d = d'
  | _, _ => false

end Terminal

/-- The rest behind the end of the group that one is in, `depth` deep. -/
def afterGroup (depth : Nat) : List Token → List Token
  | .opening _ :: ts => afterGroup (depth + 1) ts
  | .closing _ :: ts =>
    match depth with
    | 0 => ts
    | depth + 1 => afterGroup depth ts
  | _ :: ts => afterGroup depth ts
  | [] => []

/-- The rest behind a token, behind one character of a mark, or behind a group. -/
def afterOne : List Token → List Token
  | .mark run :: ts =>
    match run.toList with
    | _ :: c :: cs => .mark (String.ofList (c :: cs)) :: ts
    | _ => ts
  | .opening _ :: ts => afterGroup 0 ts
  | _ :: ts => ts
  | [] => []

/-- Whether a group ends here. -/
def isEnd : List Token → Bool
  | [] | .closing _ :: _ => true
  | _ => false

/-- The number of characters of tokens. -/
def extent (ts : List Token) : Nat := ts.foldl (fun n t => n + t.text.length) 0

/-! ## Parsers -/

/-- How far a parser is. -/
structure Progress where
  rest : List Token
  /-- What has been written, the last token first. -/
  written : List Token := []
  /-- The group that first had tokens left over. -/
  surplus : Option Delimiter := none

/-- A computation that takes tokens and writes tokens. -/
abbrev Parser := StateT Progress (Except Fault)

namespace Parser

/-- The tokens that are left. -/
def rest : Parser (List Token) := do return (← get).rest

/-- Writes a token. -/
def emit (t : Token) : Parser Unit := modify fun p => { p with written := t :: p.written }

/-- Something else has to stand here. -/
def failExpecting {α : Type} (things : List String) : Parser α := do
  throw (.expected things (isEnd (← rest)))

/-- None of the classes of tokens stands here. -/
def failExpectingOne {α : Type} (classes : List Terminal) : Parser α :=
  failExpecting (classes.map (·.title))

def atEnd : Parser Bool := do return isEnd (← rest)

/-- Whether a token of the class comes next. -/
def peek (t : Terminal) : Parser Bool := do return t.starts (← rest)

/-- Whether a token of the class comes after the next one. -/
def peek2 (t : Terminal) : Parser Bool := do return t.starts (afterOne (← rest))

/-- Whether a token of the class comes after the next two. -/
def peek3 (t : Terminal) : Parser Bool := do return t.starts (afterOne (afterOne (← rest)))

/-- Whether one of the classes comes next. -/
def peekAny (classes : List Terminal) : Parser Bool := do
  let ts ← rest
  return classes.any (·.starts ts)

/-- Takes the next token and writes it. -/
def takeNext : Parser Unit := do
  match ← rest with
  | [] => pure ()
  | t :: ts =>
    modify ({ · with rest := ts })
    emit t

/-- Takes punctuation from the front of a mark. -/
def takeMark (m : String) : Parser Unit := do
  match ← rest with
  | .mark run :: ts =>
    if !m.toList.isPrefixOf run.toList then throw (.expected ["`" ++ m ++ "`"] false)
    let left := run.toList.drop m.length
    modify ({ · with rest := if left.isEmpty then ts else .mark (String.ofList left) :: ts })
    emit (.mark m)
  | _ => throw (.expected ["`" ++ m ++ "`"] false)

/-- Takes a word that is no keyword. -/
def takeName : Parser Unit := do
  match ← rest with
  | .word w :: _ => if w ∈ keywords then throw (.keyword w) else takeNext
  | _ => failExpectingOne [.name]

/-- Takes a literal, with its sign if it has one. -/
def takeLiteral : Parser Unit := do
  if !(← peek .literal) then failExpectingOne [.literal]
  if ← peek (.mark "-") then takeNext
  takeNext

/-- Takes a token of the class. -/
def take (t : Terminal) : Parser Unit := do
  match t with
  | .mark m => takeMark m
  | .name => takeName
  | .literal => takeLiteral
  | _ => if ← peek t then takeNext else failExpectingOne [t]

/-- Takes a token of the class if it comes next. -/
def accept (t : Terminal) : Parser Bool := do
  if ← peek t then
    take t
    return true
  else return false

/-- Takes a token of the first of the classes that comes next. -/
def acceptAny : List Terminal → Parser Bool
  | [] => return false
  | t :: classes => do if ← accept t then return true else acceptAny classes

/-- Takes a token of the class if it comes next. -/
def skip (t : Terminal) : Parser Unit := discard (accept t)

/-- Takes a group; what `inner` leaves of it is put aside. -/
def group {α : Type} (d : Delimiter) (inner : Parser α) : Parser α := do
  take (.group d)
  let a ← inner
  match ← rest with
  | .closing _ :: ts => modify ({ · with rest := ts })
  | ts =>
    modify fun p => { p with rest := afterGroup 0 ts, surplus := p.surplus <|> some d }
  emit (.closing d)
  return a

/-- Takes a whole group as it is. -/
def wholeGroup : Parser Unit := do
  match ← rest with
  | .opening d :: ts =>
    let left := afterGroup 0 ts
    let taken := ts.take (ts.length - left.length)
    modify fun p => { p with
      rest := left
      written := taken.reverse ++ .opening d :: p.written }
  | _ => failExpecting ["delimiter"]

/-- What `p` takes is written as it was, not as it was understood. -/
def verbatim {α : Type} (p : Parser α) : Parser α := do
  let start ← get
  let a ← p
  let left ← rest
  let taken := start.rest.take (start.rest.length - left.length)
  modify ({ · with written := taken.reverse ++ start.written })
  return a

/-- What `p` writes is not written but returned. -/
def collect {α : Type} (p : Parser α) : Parser (α × List Token) := do
  let earlier := (← get).written
  modify ({ · with written := [] })
  let a ← p
  let piece := (← get).written
  modify ({ · with written := earlier })
  return (a, piece.reverse)

/-- What `p` gives from here, if it succeeds; nothing is taken. -/
def lookAhead {α : Type} (p : Parser α) : Parser (Option α) := do
  match p.run (← get) with
  | .ok (a, _) => return some a
  | .error _ => return none

/-- Repeats `step` while it says so, at most `n` times. -/
def iterate (step : Parser Bool) : Nat → Parser Unit
  | 0 => pure ()
  | n + 1 => do if ← step then iterate step n

/-- Repeats `step`, which takes a token whenever it says that it goes on. -/
def repeatWhile (step : Parser Bool) : Parser Unit := do
  iterate step (extent (← rest) + 1)

/-- Items with commas between them, up to a token of the class `stop`. -/
def separatedUpTo (stop : Parser Bool) (item : Parser Unit) : Parser Unit :=
  repeatWhile do
    if ← stop then return false
    item
    if ← stop then return false
    take ","
    return true

/-- Items with commas between them, up to the end of the group. -/
def separated (item : Parser Unit) : Parser Unit := separatedUpTo atEnd item

/-- Pieces of a list between angle brackets, each with the comma behind it. -/
def pieces (item : Parser Bool) : Nat → Parser (List (Bool × List Token × Bool))
  | 0 => return []
  | n + 1 => do
    if ← peek ">" then return []
    let (isFirst, piece) ← collect item
    if ← peek ">" then return [(isFirst, piece, false)]
    discard (collect (take ","))
    return (isFirst, piece, true) :: (← pieces item n)

/-- Writes pieces with commas between them. -/
def emitPieces : List (List Token × Bool) → Parser Unit
  | [] => pure ()
  | [(piece, comma)] => do
    piece.forM emit
    if comma then emit (.mark ",")
  | (piece, _) :: rest => do
    piece.forM emit
    emit (.mark ",")
    emitPieces rest

/-- A list between angle brackets. The items for which `item` says so are written first. -/
def angles (item : Parser Bool) : Parser Unit := do
  take "<"
  let ps ← pieces item (extent (← rest) + 1)
  let (firsts, others) := ps.partition (·.1)
  emitPieces ((firsts ++ others).map (·.2))
  take ">"

end Parser

end MethodBinding.Code
