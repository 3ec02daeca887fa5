import MethodBinding.Text.Quoted

/-!
# Tokens

The tokens of source code, as they are read from attributes and written into generated code. Code is
written with one blank between any two tokens.
-/

namespace MethodBinding.Code

/-- The brackets that enclose a group of tokens. -/
inductive Delimiter where
  | paren
  | bracket
  | brace
deriving DecidableEq

namespace Delimiter

/-- The mark that opens a group. -/
def opening : Delimiter → String
  | paren => "("
  | bracket => "["
  | brace => "\x7b"

/-- The mark that closes a group. -/
def closing : Delimiter → String
  | paren => ")"
  | bracket => "]"
  | brace => "\x7d"

end Delimiter

/-- A string literal: how it is written, and the text that it denotes. -/
structure StringLiteral where
  written : String
  value : String
deriving DecidableEq

/-- The literal that a text is written as. -/
def StringLiteral.ofText (s : String) : StringLiteral := ⟨quotedLiteral s, s⟩

instance : Coe String StringLiteral := ⟨StringLiteral.ofText⟩

/-- A token of source code. -/
inductive Token where
  | string (s : StringLiteral)
  /-- An integer as it is written, with its value and the suffix that names its type, if any. -/
  | integer (written : String) (value : Nat) (suffix : String)
  /-- A literal of another type as it is written. -/
  | literal (written : String)
  | word (w : String)
  /-- A lifetime with its mark. -/
  | lifetime (name : String)
  /-- Punctuation that stands together, of one or more characters. -/
  | mark (text : String)
  | opening (d : Delimiter)
  | closing (d : Delimiter)
deriving DecidableEq

namespace Token

/-- A token as it is written. -/
def text : Token → String
  | string s => s.written
  | integer written _ _ => written
  | literal written => written
  | word w => w
  | lifetime name => name
  | mark text => text
  | opening d => d.opening
  | closing d => d.closing

/-- Tokens as they are written, with a blank between any two. -/
def render (ts : List Token) : String := " ".intercalate (ts.map text)

/-- The token of a text in generated code. -/
def ofText (s : String) : Token := string (.ofText s)

/-- The token of a number in generated code. -/
def ofNat (n : Nat) (suffix : String) : Token := integer (toString n ++ suffix) n suffix

/-- The tokens of an integer; a sign is a token of its own. -/
def ofInt (n : Int) : List Token :=
  if n < 0 then [mark "-", ofNat n.natAbs ""] else [ofNat n.natAbs ""]

/-- The integer that tokens denote as a literal of 64 bits. -/
def toInt64? : List Token → Option Int64
  | [integer _ n suffix] => ofLiteral? n suffix
  | [mark "-", integer _ n suffix] => ofLiteral? (-n) suffix
  | _ => none
where
  /-- The word of a number that fits one. -/
  ofLiteral? (n : Int) (suffix : String) : Option Int64 :=
    if suffix ∈ ["", "i64"] ∧ (Int64.ofInt n).toInt = n then some (.ofInt n) else none

/-- The group of some tokens. -/
def group (d : Delimiter) (ts : List Token) : List Token := opening d :: ts ++ [closing d]

end Token

end MethodBinding.Code
