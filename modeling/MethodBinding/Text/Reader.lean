/-!
# Readers

A `Reader` takes its result from the front of a text, or fails; a reader that fails takes nothing,
so that another one can be tried in its place (`<|>`). Repetition is bounded by the length of the
text that is left, so that every reader stops.
-/

namespace MethodBinding

/-- Takes a result from the front of a text, or fails. -/
abbrev Reader := StateT (List Char) Option

namespace Reader

/-- The character that comes next, which is not taken. -/
def peek? : Reader (Option Char) := fun cs => some (cs.head?, cs)

/-- Whether the text that is left starts with `s`. -/
def startsWith (s : String) : Reader Bool := fun cs => some (s.toList.isPrefixOf cs, cs)

/-- The next character, if it satisfies `p`. -/
def char (p : Char → Bool) : Reader Char
  | [] => none
  | c :: cs => if p c then some (c, cs) else none

/-- The characters of `s`, one after the other. -/
def text (s : String) : Reader Unit := fun cs =>
  if s.toList.isPrefixOf cs then some ((), cs.drop s.length) else none

/-- All next characters that satisfy `p`. -/
def takeWhile (p : Char → Bool) : Reader (List Char) := fun cs =>
  some (cs.takeWhile p, cs.dropWhile p)

/-- One or more characters that satisfy `p`. -/
def takeWhile1 (p : Char → Bool) : Reader (List Char) := do
  let c ← char p
  return c :: (← takeWhile p)

/-- The result of `r`, or nothing if it fails. -/
def optional {α : Type} (r : Reader α) : Reader (Option α) := (some <$> r) <|> pure none

/-- The results of `r`, at most `n` of them. -/
def upTo {α : Type} (r : Reader α) : Nat → Reader (List α)
  | 0 => pure []
  | n + 1 => do
    match ← optional r with
    | none => return []
    | some a => return a :: (← upTo r n)

/-- As many results of `r` as there are. Each must take a character. -/
def many {α : Type} (r : Reader α) : Reader (List α) := do
  upTo r (← get).length

/-- One or more results of `r` with `separator` between them. -/
def separated {α : Type} (r : Reader α) (separator : Reader Unit) : Reader (List α) := do
  let a ← r
  return a :: (← many (do separator; r))

/-- The result of `r`, with the text that it takes. -/
def withText {α : Type} (r : Reader α) : Reader (α × String) := fun cs =>
  (r cs).map fun (a, rest) => ((a, String.ofList (cs.take (cs.length - rest.length))), rest)

/-- Succeeds at the end of the text. -/
def atEnd : Reader Unit
  | [] => some ((), [])
  | _ => none

/-- The result of a reader that takes the whole text. -/
def runAll {α : Type} (r : Reader α) (s : String) : Option α :=
  match r s.toList with
  | some (a, []) => some a
  | _ => none

end Reader

end MethodBinding
