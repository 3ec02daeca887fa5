import MethodBinding.Toml.Node

/-!
# Decoding documents

Views of a node as a host type, and fields of a record with a node for each. A record is read from a
table by the names of its fields, or from an array by their order; names and items beyond the fields
are ignored.
-/

namespace MethodBinding.Toml

namespace Node

def string? : Node → Option String
  | string s => some s
  | _ => none

def integer? : Node → Option Int64
  | integer n => some n
  | _ => none

def boolean? : Node → Option Bool
  | boolean b => some b
  | _ => none

/-- The items of an array; several tables under one name are one as well. -/
def items? : Node → Option (List Node)
  | array items => some items
  | tables elements => some (elements.map (.table .header))
  | _ => none

/-- A list with all items of one type. -/
def listOf? {α : Type} (item? : Node → Option α) (n : Node) : Option (List α) :=
  n.items?.bind (·.mapM item?)

end Node

/-- Where the fields of a record are found: under a name, or at a place. -/
structure Fields where
  find? : String → Nat → Option Node

namespace Fields

def ofEntries (entries : Entries) : Fields := ⟨fun name _ => entries.find? name⟩

/-- The fields of a node that may stand for a record. -/
def ofNode? : Node → Option Fields
  | .table _ entries => some (ofEntries entries)
  | .array items => some ⟨fun _ place => items[place]?⟩
  | _ => none

/-- A field that must be there. -/
def required? {α : Type} (f : Fields) (name : String) (place : Nat) (decode? : Node → Option α) :
    Option α :=
  (f.find? name place).bind decode?

/-- A field with a value for when it is not there. -/
def orElse? {α : Type} (f : Fields) (name : String) (place : Nat) (decode? : Node → Option α)
    (absent : α) : Option α :=
  match f.find? name place with
  | none => some absent
  | some n => decode? n

/-- A field that may be left out. -/
def optional? {α : Type} (f : Fields) (name : String) (place : Nat) (decode? : Node → Option α) :
    Option (Option α) :=
  f.orElse? name place (fun n => (decode? n).map some) none

end Fields

end MethodBinding.Toml
