import MethodBinding.Code.Token
import MethodBinding.Text.Blank
import MethodBinding.Text.Reader

/-!
# From text to tokens

`tokens? s` reads a text as a list of tokens. Blanks and comments separate tokens and are dropped,
except comments that document what they stand at; of several readings of a token the longest wins;
punctuation that stands together makes one mark.
-/

namespace MethodBinding.Code

namespace Lexer

/-! ## Blanks and comments -/

/-- A blank; marks of writing direction count as such. -/
def isGap (c : Char) : Bool := isBlank c || c == '\u200e' || c == '\u200f'

/-- The text up to the end of the line, without the end itself. -/
def lineText : List Char → List Char × List Char
  | '\n' :: cs | '\r' :: '\n' :: cs => ([], '\n' :: cs)
  | c :: cs => (lineText cs).map (c :: ·) id
  | [] => ([], [])

/-- The text of a comment up to the end of its line. -/
def lineComment : Reader (List Char) := do
  Reader.text "//"
  fun cs => some (lineText cs)

/-- A comment between marks, `depth` deep in others, after its opening mark. -/
def blockCommentFrom (depth : Nat) : List Char → Option (List Char)
  | '/' :: '*' :: cs => blockCommentFrom (depth + 1) cs
  | '*' :: '/' :: cs =>
    match depth with
    | 0 => some cs
    | depth + 1 => blockCommentFrom depth cs
  | _ :: cs => blockCommentFrom depth cs
  | [] => none

/-- The text of a comment between marks, which may hold others. -/
def blockComment : Reader (List Char) := do
  Reader.text "/*"
  let (_, written) ← Reader.withText fun cs => (blockCommentFrom 0 cs).map ((), ·)
  return written.toList.dropLast.dropLast

/-- Whether a comment that documents something comes next: one more mark follows its opening. -/
def startsDocumentation : Reader Bool := fun cs =>
  let starts (s : String) : Bool := s.toList.isPrefixOf cs
  some (starts "//!" || starts "/*!" || (starts "///" && !starts "////") ||
    (starts "/**" && !starts "/***" && !starts "/**/"), cs)

/-- A comment that does not document anything. -/
def comment : Reader Unit := do
  if ← startsDocumentation then failure
  discard (lineComment <|> blockComment)

/-- Skips blanks and comments. -/
def gap : Reader Unit := do
  discard (Reader.many (discard (Reader.takeWhile1 isGap) <|> comment))

/-- Whether a carriage return stands apart from a line feed. -/
def hasLoneReturn : List Char → Bool
  | '\r' :: '\n' :: cs => hasLoneReturn cs
  | '\r' :: _ => true
  | _ :: cs => hasLoneReturn cs
  | [] => false

/-- A comment that documents something is an attribute that holds its text. -/
def documentation : Reader (List Token) := do
  if !(← startsDocumentation) then failure
  let isInner := (← Reader.startsWith "//!") || (← Reader.startsWith "/*!")
  let text := (← lineComment <|> blockComment).drop 1
  if hasLoneReturn text then failure
  return (if isInner then [.mark "#", .mark "!"] else [.mark "#"]) ++
    Token.group .bracket [.word "doc", .mark "=", .ofText (String.ofList text)]

/-! ## Words -/

/-- A character that a word may start with. -/
def isWordStart (c : Char) : Bool := c.isAlpha || c == '_' || (128 ≤ c.toNat && !isGap c)

/-- A character that a word may go on with. -/
def isWordRest (c : Char) : Bool := isWordStart c || c.isDigit

/-- A word without a mark before it. -/
def plainWord : Reader String := do
  let c ← Reader.char isWordStart
  return String.ofList (c :: (← Reader.takeWhile isWordRest))

/-- A word marked as no keyword. -/
def rawWord : Reader String := do
  Reader.text "r#"
  let w ← plainWord
  if w ∈ ["_", "super", "self", "Self", "crate"] then failure else return "r#" ++ w

def word : Reader Token := Token.word <$> (rawWord <|> plainWord)

/-- The suffix of a literal, empty if there is none. -/
def suffix : Reader String := do return (← Reader.optional plainWord).getD ""

/-! ## Texts and characters -/

/-- The value of hexadecimal digits; underscores count for nothing. -/
def hexValue (ds : List Char) : Nat :=
  ds.foldl (fun n c => if c == '_' then n else n * 16 + digitValue c) 0
where
  /-- The value of a digit. -/
  digitValue (c : Char) : Nat :=
    if c.isDigit then c.toNat - '0'.toNat else c.toLower.toNat - 'a'.toNat + 10

def isHexDigit (c : Char) : Bool := c.isDigit || ('a' ≤ c && c ≤ 'f') || ('A' ≤ c && c ≤ 'F')

/-- The character of a code point. -/
def charOf (n : Nat) : Reader Char := if n.isValidChar then pure (Char.ofNat n) else failure

/-- What stands for a character, after the backslash. -/
def escape : Reader Char := do
  match ← Reader.char fun _ => true with
  | 'n' => return '\n'
  | 'r' => return '\r'
  | 't' => return '\t'
  | '0' => return '\x00'
  | '\\' => return '\\'
  | '\'' => return '\''
  | '"' => return '"'
  | 'x' =>
    let a ← Reader.char fun c => '0' ≤ c && c ≤ '7'
    let b ← Reader.char isHexDigit
    charOf (hexValue [a, b])
  | 'u' =>
    Reader.text "\x7b"
    let d ← Reader.char isHexDigit
    let ds ← Reader.takeWhile fun c => isHexDigit c || c == '_'
    Reader.text "\x7d"
    if 6 < (d :: ds).countP (· != '_') then failure else charOf (hexValue (d :: ds))
  | _ => failure

/-- A backslash at the end of a line: the blanks up to the next line's text do not count. -/
def lineJoin : Reader Unit := do
  Reader.text "\\\n" <|> Reader.text "\\\r\n"
  discard (Reader.takeWhile fun c => c ∈ [' ', '\t', '\n', '\r'])

/-- A part of a text between quotes. -/
def textPart : Reader (List Char) :=
  ((fun _ => []) <$> lineJoin) <|>
  (do Reader.text "\\"; return [← escape]) <|>
  ((fun _ => ['\n']) <$> Reader.text "\r\n") <|>
  (do return [← Reader.char fun c => c != '"' && c != '\\' && c != '\r'])

/-- The value of a text between quotes. -/
def quotedText : Reader String := do
  Reader.text "\""
  let parts ← Reader.many textPart
  Reader.text "\""
  return String.ofList parts.flatten

/-- The text before the first place where `stop` stands, which is taken too. -/
def takeUntil (stop : List Char) : List Char → Option (List Char × List Char)
  | [] => none
  | c :: cs =>
    if stop.isPrefixOf (c :: cs) then some ([], (c :: cs).drop stop.length)
    else (takeUntil stop cs).map fun (taken, rest) => (c :: taken, rest)

/-- The value of a text between quotes and equal numbers of hash marks, without escapes. -/
def rawText : Reader String := do
  let hashes ← Reader.takeWhile (· == '#')
  Reader.text "\""
  String.ofList <$> takeUntil ('"' :: hashes)

def stringLiteral : Reader Token := do
  let (value, written) ← Reader.withText do
    let value ← quotedText <|> (do Reader.text "r"; rawText)
    discard suffix
    return value
  return .string ⟨written, value⟩

/-- A part of a text of bytes between quotes `q`: a character, or what a backslash makes one. -/
def bytePart (q : Char) : Reader Unit :=
  (do
    Reader.text "\\x"
    discard (Reader.char isHexDigit)
    discard (Reader.char isHexDigit)) <|>
  (do Reader.text "\\"; discard (Reader.char (· != 'x'))) <|>
  discard (Reader.char fun c => c != q && c != '\\')

/-- A character between single quotes. -/
def quotedChar : Reader Unit := do
  Reader.text "'"
  (do Reader.text "\\"; discard escape) <|> discard (Reader.char (· != '\\'))
  Reader.text "'"

/-- The literals of bytes, of terminated texts, and of single characters. -/
def otherText : Reader Token := do
  let (_, written) ← Reader.withText do
    (do Reader.text "b'"; bytePart '\''; Reader.text "'") <|>
      (do
        Reader.text "b\"" <|> Reader.text "c\""
        discard (Reader.many (bytePart '"'))
        Reader.text "\"") <|>
      (do Reader.text "br" <|> Reader.text "cr"; discard rawText) <|>
      quotedChar
    discard suffix
  return .literal written

/-! ## Numbers -/

def isDigitOrGap (c : Char) : Bool := c.isDigit || c == '_'

/-- A point and the digits behind it. No point or word may follow the point. -/
def fraction : Reader Unit := do
  Reader.text "."
  match ← Reader.peek? with
  | some c => if c == '.' || isWordStart c then failure
  | none => pure ()
  discard (Reader.takeWhile isDigitOrGap)

/-- An exponent, which has at least one digit. -/
def exponent : Reader Unit := do
  discard (Reader.char fun c => c == 'e' || c == 'E')
  discard (Reader.takeWhile (· == '_'))
  discard (Reader.optional (Reader.char fun c => c == '+' || c == '-'))
  let ds ← Reader.takeWhile isDigitOrGap
  if ds.any Char.isDigit then pure () else failure

/-- A number with a fraction or an exponent. -/
def float : Reader Token := do
  let (_, written) ← Reader.withText do
    discard (Reader.char Char.isDigit)
    discard (Reader.takeWhile isDigitOrGap)
    (do fraction; discard (Reader.optional exponent)) <|> exponent
    discard suffix
  return .literal written

/-- The digits of an integer in a base other than ten. -/
def digitsIn (base : Nat) (mark : String) : Reader Nat := do
  Reader.text mark
  let ds ← Reader.takeWhile fun c =>
    c == '_' || c.isDigit || (isHexDigit c && hexValue [c] < base)
  let ds := ds.filter (· != '_')
  if ds.isEmpty || ds.any (base ≤ hexValue [·]) then failure
  else return ds.foldl (fun n c => n * base + hexValue [c]) 0

/-- The digits of a decimal integer. -/
def decimal : Reader Nat := do
  let d ← Reader.char Char.isDigit
  let ds ← Reader.takeWhile isDigitOrGap
  return (d :: ds).foldl (fun n c => if c == '_' then n else n * 10 + hexValue [c]) 0

def integer : Reader Token := do
  let ((value, suffix), written) ← Reader.withText do
    let value ←
      match ← Reader.startsWith "0x", ← Reader.startsWith "0o", ← Reader.startsWith "0b" with
      | true, _, _ => digitsIn 16 "0x"
      | _, true, _ => digitsIn 8 "0o"
      | _, _, true => digitsIn 2 "0b"
      | _, _, _ => decimal
    return (value, ← suffix)
  return .integer written value suffix

/-! ## Marks -/

/-- The characters of punctuation. -/
def isPunctuation (c : Char) : Bool := c ∈ "~!@#$%^&*-=+|;:,<.>/?".toList

/-- The punctuation at the front of a text, up to a comment. -/
def takePunctuation : List Char → List Char × List Char
  | '/' :: '/' :: cs => ([], '/' :: '/' :: cs)
  | '/' :: '*' :: cs => ([], '/' :: '*' :: cs)
  | c :: cs =>
    if isPunctuation c then
      let (taken, rest) := takePunctuation cs
      (c :: taken, rest)
    else ([], c :: cs)
  | [] => ([], [])

/-- Punctuation that stands together. -/
def mark : Reader Token := fun cs =>
  match takePunctuation cs with
  | ([], _) => none
  | (taken, rest) => some (.mark (String.ofList taken), rest)

/-- A lifetime. -/
def lifetime : Reader Token := do
  Reader.text "'"
  return .lifetime ("'" ++ (← rawWord <|> plainWord))

/-- A bracket. -/
def bracket : Reader Token := do
  match ← Reader.char fun _ => true with
  | '(' => return .opening .paren
  | '[' => return .opening .bracket
  | '\x7b' => return .opening .brace
  | ')' => return .closing .paren
  | ']' => return .closing .bracket
  | '\x7d' => return .closing .brace
  | _ => failure

/-- A token that is no comment. -/
def token : Reader Token :=
  bracket <|> stringLiteral <|> otherText <|> float <|> integer <|> lifetime <|> mark <|> word

/-- The tokens of a comment that documents something, or a single one. -/
def piece : Reader (List Token) := documentation <|> List.singleton <$> token

end Lexer

/-- Whether the brackets match, where those of `opened` are open. -/
def isBalancedFrom (opened : List Delimiter) : List Token → Bool
  | [] => opened.isEmpty
  | .opening d :: ts => isBalancedFrom (d :: opened) ts
  | .closing d :: ts =>
    match opened with
    | d' :: opened => d = d' && isBalancedFrom opened ts
    | [] => false
  | _ :: ts => isBalancedFrom opened ts

/-- The tokens of a text, if it has no part that is none and its brackets match. -/
def tokens? (s : String) : Option (List Token) := do
  let pieces ← Reader.runAll
    (do Lexer.gap; Reader.many (do let ts ← Lexer.piece; Lexer.gap; return ts)) s
  let ts := pieces.flatten
  if isBalancedFrom [] ts then some ts else none

/-- The tokens of fixed code. -/
def code (s : String) : List Token := (tokens? s).getD []

end MethodBinding.Code
