/-!
# Reading text files

What a path may lead to, and why it may not be read as a text.
-/

namespace MethodBinding

/-- What is found at a path. -/
inductive SourceFile where
  | bytes (content : ByteArray)
  | directory
  | missing

/-- Why a path does not give a text. -/
inductive ReadFault where
  | notFound
  | isDirectory
  | notText
deriving DecidableEq

namespace ReadFault

def message : ReadFault → String
  | notFound => "No such file or directory (os error 2)"
  | isDirectory => "Is a directory (os error 21)"
  | notText => "stream did not contain valid UTF-8"

end ReadFault

/-- A file with a text. -/
def SourceFile.ofText (s : String) : SourceFile := .bytes s.toUTF8

/-- The text of a file. -/
def SourceFile.text : SourceFile → Except ReadFault String
  | .bytes content =>
    match String.fromUTF8? content with
    | some s => .ok s
    | none => .error .notText
  | .directory => .error .isDirectory
  | .missing => .error .notFound

end MethodBinding
