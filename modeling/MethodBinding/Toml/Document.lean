import MethodBinding.Toml.Node
import MethodBinding.Toml.Number

/-!
# Reading documents

Values, lines and headers, up to `Toml.parse?`, which reads a whole document. Arrays may span lines
and end with a comma; tables in braces may not. Arrays and tables nest less than eighty deep.
-/

namespace MethodBinding.Toml

/-! ## Values -/

/-- A value without parts. -/
def scalar : Reader Node :=
  (Node.string <$> string) <|>
  (do Reader.text "true"; return .boolean true) <|>
  (do Reader.text "false"; return .boolean false) <|>
  (do dateTime; return .other) <|>
  (do float; return .other) <|>
  (Node.integer <$> integer)

/-- The items of an array or braces, with `item` for one of them and commas between them. -/
def commaSeparated {α : Type} (item : Reader α) : Reader (List α) := do
  match ← Reader.optional item with
  | none => return []
  | some a => return a :: (← Reader.many (do Reader.text ","; item))

/-- A value that nests at most `depth` deep. -/
def valueWithin : Nat → Reader Node
  | 0 => scalar
  | depth + 1 => do
    match ← Reader.peek? with
    | some '[' =>
      Reader.text "["
      let items ← commaSeparated (do gap; let v ← valueWithin depth; gap; return v)
      unless items.isEmpty do discard (Reader.optional (Reader.text ","))
      gap
      Reader.text "]"
      return .array items
    | some '\x7b' =>
      Reader.text "\x7b"
      spaces
      let values ← commaSeparated do
        let k ← key
        Reader.text "="
        spaces
        let v ← valueWithin depth
        spaces
        return (k, v)
      Reader.text "\x7d"
      match Entries.putAll? [] values with
      | some entries => return .table .inlineValue entries
      | none => failure
    | _ => scalar

/-- A value; its own arrays and braces count toward the limit. -/
def value : Reader Node := valueWithin (nestingLimit - 1)

/-! ## Lines -/

/-- A line of a document. -/
inductive Line where
  | blank
  | value (key : List String) (value : Node)
  | header (header : Header)

/-- The header of an element, or of a table. -/
def headerLine : Reader Header :=
  (do
    Reader.text "[["
    let path ← key
    Reader.text "]]"
    return .element path) <|> do
    Reader.text "["
    let path ← key
    Reader.text "]"
    return .table path

/-- A key, an equals sign and a value. -/
def valueLine : Reader Line := do
  let k ← key
  Reader.text "="
  spaces
  return .value k (← value)

/-- The content of a line, without its end. -/
def lineContent : Reader Line := do
  spaces
  match ← Reader.peek? with
  | none | some '#' | some '\n' | some '\x0d' => return .blank
  | some '[' => return .header (← headerLine)
  | _ => valueLine

/-- The lines of a text. The text may start with a byte order mark, and its last line need not
end. -/
def lines : Reader (List Line) := do
  discard (Reader.optional (Reader.text "\ufeff"))
  let complete ← Reader.many (do
    let line ← lineContent
    spaces
    discard (Reader.optional comment)
    newline
    return line)
  let last ← lineContent
  lineEnd
  return complete ++ [last]

/-- Groups lines into sections, the one under construction being `current`. -/
def sectionsFrom (current : Section) : List Line → List Section
  | [] => [current]
  | .blank :: rest => sectionsFrom current rest
  | .value k v :: rest =>
    sectionsFrom { current with values := current.values ++ [(k, v)] } rest
  | .header h :: rest => current :: sectionsFrom ⟨h, []⟩ rest

/-- Reads a document. -/
def parse? (s : String) : Option Entries := do
  Entries.ofSections? (sectionsFrom ⟨.root, []⟩ (← lines.runAll s))

end MethodBinding.Toml
