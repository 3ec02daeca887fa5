import MethodBinding.Text.Reader

/-!
# Blanks and line ends in documents

What may stand between the parts of a document: blanks within a line, comments, and line ends.
-/

namespace MethodBinding.Toml

/-- A blank within a line. -/
def isSpace (c : Char) : Bool := c == ' ' || c == '\t'

/-- Skips blanks within a line. -/
def spaces : Reader Unit := do discard (Reader.takeWhile isSpace)

/-- The end of a line. A carriage return counts only before a line feed. -/
def newline : Reader Unit := Reader.text "\n" <|> Reader.text "\r\n"

/-- The characters that need no escape in comments and literal strings: no control but the tab. -/
def isPlain (c : Char) : Bool := c == '\t' || (' ' ≤ c && c != '\x7f')

/-- A comment, up to the end of its line. -/
def comment : Reader Unit := do
  Reader.text "#"
  discard (Reader.takeWhile isPlain)

/-- What may follow on a line after everything else. -/
def lineEnd : Reader Unit := do
  spaces
  discard (Reader.optional comment)
  newline <|> Reader.atEnd

/-- Skips blanks, line ends and comments. -/
def gap : Reader Unit := do
  discard (Reader.many (discard (Reader.takeWhile1 isSpace) <|> newline <|> comment))

end MethodBinding.Toml
