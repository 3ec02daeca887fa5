import MethodBinding.Text.Unshown

/-!
# Quoted text

A text between double quotes, in which every character shows: the quote and the backslash are
escaped by a backslash, four controls have letters of their own, and any other character that does
not show is written as its code point, in lower-case hexadecimal digits without padding. Literals
in source code are written in the same way, but for NULs before octal digits.
-/

namespace MethodBinding

/-- A character does not show if it is an ASCII control or lies in a range of `Unshown.ranges`. -/
def isUnshown (c : Char) : Bool :=
  let n := c.toNat
  if n < 128 then n < 32 || n == 127
  else Unshown.ranges.any fun r => r.1 ≤ n && n ≤ r.2

namespace Quoted

/-- The characters that stand for one character inside quotes. -/
def encodeChar (c : Char) : List Char :=
  match c with
  | '"' => ['\\', '"']
  | '\\' => ['\\', '\\']
  | '\n' => ['\\', 'n']
  | '\r' => ['\\', 'r']
  | '\t' => ['\\', 't']
  | '\x00' => ['\\', '0']
  | c => if isUnshown c then ['\\', 'u', '\x7b'] ++ Nat.toDigits 16 c.toNat ++ ['\x7d'] else [c]

/-- The characters inside the quotes of a literal in source code. They are the same, but for a NUL
before an octal digit, which is written in hexadecimal lest it look like one octal code. -/
def encodeLiteral : List Char → List Char
  | [] => []
  | '\x00' :: c :: cs =>
    (if '0' ≤ c ∧ c ≤ '7' then ['\\', 'x', '0', '0'] else ['\\', '0']) ++ encodeLiteral (c :: cs)
  | c :: cs => encodeChar c ++ encodeLiteral cs

/-- A text in quotes. -/
def encode (s : List Char) : List Char := '"' :: s.flatMap encodeChar ++ ['"']

end Quoted

/-- A text in quotes. -/
def quoted (s : String) : String := String.ofList (Quoted.encode s.toList)

/-- A text as a literal in source code. -/
def quotedLiteral (s : String) : String :=
  String.ofList ('"' :: Quoted.encodeLiteral s.toList ++ ['"'])

end MethodBinding
