import MethodBinding.Toml.Gap

/-!
# Strings and keys

Basic strings stand in double quotes and know escapes, literal strings stand in single quotes and do
not. With three quotes either kind may span lines: a line end right after the opening quotes is
dropped, and up to two quotes may stand before the closing ones. A key is a sequence of bare words
or one-line strings with dots between them.
-/

namespace MethodBinding.Toml

/-- The longest key has one part less than this, and values nest less deeply than this. -/
def nestingLimit : Nat := 80

def isHexDigit (c : Char) : Bool :=
  c.isDigit || ('a' ≤ c && c ≤ 'f') || ('A' ≤ c && c ≤ 'F')

/-- The value of a digit in base sixteen. -/
def digitValue (c : Char) : Nat :=
  if c.isDigit then c.toNat - '0'.toNat
  else if 'a' ≤ c then c.toNat - 'a'.toNat + 10
  else c.toNat - 'A'.toNat + 10

/-- The number that digits denote in a base. -/
def ofDigits (base : Nat) (digits : List Char) : Nat :=
  digits.foldl (fun n c => n * base + digitValue c) 0

/-- A character given by `n` hexadecimal digits; surrogates and numbers out of range are refused. -/
def codePoint (n : Nat) : Reader Char := do
  let digits ← Reader.upTo (Reader.char isHexDigit) n
  let code := ofDigits 16 digits
  if digits.length = n ∧ code.isValidChar then return Char.ofNat code else failure

/-- The character that an escape stands for, after the backslash. -/
def escape : Reader Char := do
  match ← Reader.char fun _ => true with
  | 'b' => return '\x08'
  | 't' => return '\t'
  | 'n' => return '\n'
  | 'f' => return '\x0c'
  | 'r' => return '\r'
  | '"' => return '"'
  | '\\' => return '\\'
  | 'u' => codePoint 4
  | 'U' => codePoint 8
  | _ => failure

/-- The characters of a basic string other than escapes. -/
def isBasic (c : Char) : Bool := isPlain c && c != '"' && c != '\\'

/-- The characters of a literal string. -/
def isLiteral (c : Char) : Bool := isPlain c && c != '\''

/-- A basic string on one line. -/
def basicString : Reader String := do
  Reader.text "\""
  let parts ← Reader.many (Reader.char isBasic <|> (do Reader.text "\\"; escape))
  Reader.text "\""
  return String.ofList parts

/-- A literal string on one line. -/
def literalString : Reader String := do
  Reader.text "'"
  let content ← Reader.takeWhile isLiteral
  Reader.text "'"
  return String.ofList content

/-- A backslash at the end of a line: it drops all blanks and line ends that follow. -/
def lineContinuation : Reader (List Char) := do
  Reader.text "\\"
  spaces
  newline
  discard (Reader.many (discard (Reader.takeWhile1 isSpace) <|> newline))
  return []

/-- One or two quotes that do not belong to three. -/
def looseQuotes (quote : Char) : Reader (List Char) := fun cs =>
  let quotes := cs.takeWhile (· == quote)
  if quotes.length = 1 ∨ quotes.length = 2 then some (quotes, cs.drop quotes.length) else none

/-- The three closing quotes, with up to two more before them that belong to the content. -/
def closingQuotes (quote : Char) : Reader (List Char) := fun cs =>
  let count := (cs.takeWhile (· == quote)).length
  if count < 3 then none
  else
    let inner := min (count - 3) 2
    some (List.replicate inner quote, cs.drop (inner + 3))

/-- A string over several lines, whose content is made of `part`s. -/
def multiline (quote : Char) (part : Reader (List Char)) : Reader String := do
  Reader.text (String.ofList [quote, quote, quote])
  discard (Reader.optional newline)
  let parts ← Reader.many (part <|> (do newline; return ['\n']) <|> looseQuotes quote)
  let quotes ← closingQuotes quote
  return String.ofList (parts.flatten ++ quotes)

def multilineBasicString : Reader String :=
  multiline '"' <|
    Reader.takeWhile1 isBasic <|> lineContinuation <|>
      (do Reader.text "\\"; return [← escape])

def multilineLiteralString : Reader String := multiline '\'' (Reader.takeWhile1 isLiteral)

/-- A string of any of the four kinds. -/
def string : Reader String :=
  multilineBasicString <|> basicString <|> multilineLiteralString <|> literalString

def isBareKey (c : Char) : Bool := c.isAlphanum || c == '-' || c == '_'

/-- One part of a key. -/
def simpleKey : Reader String :=
  basicString <|> literalString <|> (String.ofList <$> Reader.takeWhile1 isBareKey)

/-- A key with all its parts, and the blanks around them. -/
def key : Reader (List String) := do
  let parts ← Reader.separated (do spaces; let part ← simpleKey; spaces; return part)
    (Reader.text ".")
  if parts.length < nestingLimit then return parts else failure

end MethodBinding.Toml
