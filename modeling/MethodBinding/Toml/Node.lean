/-!
# Documents

A document is a tree of tables. A table remembers how it came about (`Origin`), because that decides
whether it may be extended: by a header, by a header of one of its parts, by dotted keys, or as a
closed value. `Entries.put?` adds a value under a dotted key, `Entries.enterHeader?` changes the
table that a header names.
-/

namespace MethodBinding.Toml

/-- How a table came about. -/
inductive Origin where
  /-- A header names the table. -/
  | header
  /-- Only headers of its parts name it so far. -/
  | implied
  /-- Dotted keys put values into it. -/
  | dotted
  /-- It is written as a value in braces. -/
  | inlineValue
deriving DecidableEq

/-- A value, a table, or several tables under one name. -/
inductive Node where
  | string (s : String)
  | integer (n : Int64)
  | boolean (b : Bool)
  /-- A floating point number, a date or a time. -/
  | other
  | array (items : List Node)
  | table (origin : Origin) (entries : List (String × Node))
  | tables (elements : List (List (String × Node)))
deriving Inhabited

/-- The content of a table. -/
abbrev Entries := List (String × Node)

namespace Entries

/-- The node under a name. -/
def find? (t : Entries) (name : String) : Option Node := List.lookup name t

/-- Puts a node under a name, in place of an earlier one. -/
def set (t : Entries) (name : String) (n : Node) : Entries :=
  if (t.find? name).isSome then t.map fun e => if e.1 == name then (name, n) else e
  else t ++ [(name, n)]

/-- Adds a value under a dotted key, whose last part must be new. The table that it goes into must
have been made by dotted keys as well; on the way there the key may pass through tables that headers
imply, and through the last of several tables under one name. -/
def put? (t : Entries) (last : String) (value : Node) : List String → Option Entries
  | [] => if (t.find? last).isSome then none else some (t ++ [(last, value)])
  | name :: names =>
    match t.find? name with
    | none => (put? [] last value names).map fun inner => t.set name (.table .dotted inner)
    | some (.table .dotted inner) =>
      (put? inner last value names).map fun inner => t.set name (.table .dotted inner)
    | some (.table .implied inner) =>
      -- a table that headers made may be passed through, but takes no value itself
      if names.isEmpty then none
      else (put? inner last value names).map fun inner => t.set name (.table .implied inner)
    | some (.tables elements) =>
      match names, elements.getLast? with
      | _ :: _, some inner => (put? inner last value names).map fun inner =>
          t.set name (.tables (elements.dropLast ++ [inner]))
      | _, _ => none
    | some _ => none

/-- Changes the table at the end of a path of a header. Tables that are missing are implied; of
several tables under one name the last one counts. -/
def enterHeader? (t : Entries) (change : Entries → Option Entries) : List String → Option Entries
  | [] => change t
  | name :: names =>
    match t.find? name with
    | none => (enterHeader? [] change names).map fun inner => t.set name (.table .implied inner)
    | some (.table .inlineValue _) => none
    | some (.table origin inner) =>
      (enterHeader? inner change names).map fun inner => t.set name (.table origin inner)
    | some (.tables elements) =>
      match elements.getLast? with
      | none => none
      | some inner =>
        (enterHeader? inner change names).map fun inner =>
          t.set name (.tables (elements.dropLast ++ [inner]))
    | some _ => none

/-- Adds values under dotted keys, none of which is empty. -/
def putAll? (t : Entries) : List (List String × Node) → Option Entries
  | [] => some t
  | (key, value) :: rest =>
    match key.getLast? with
    | none => none
    | some last =>
      match t.put? last value key.dropLast with
      | none => none
      | some t => t.putAll? rest

end Entries

/-! ## Sections -/

/-- What the values of a section belong to. -/
inductive Header where
  | root
  | table (path : List String)
  | element (path : List String)
deriving DecidableEq

/-- A header and the values that follow it. -/
structure Section where
  header : Header
  values : List (List String × Node)

/-- Adds a section to a document. A header may name a table that was only implied before, and else
must name a new one; an element header adds another table under its name. -/
def Section.addTo? (s : Section) (t : Entries) : Option Entries :=
  match s.header with
  | .root => t.putAll? s.values
  | .table path =>
    match path.getLast? with
    | none => none
    | some last => t.enterHeader? (fun parent =>
        match parent.find? last with
        | none => (Entries.putAll? [] s.values).map fun content =>
            parent ++ [(last, .table .header content)]
        | some (.table .implied content) => (Entries.putAll? content s.values).map fun content =>
            parent.set last (.table .header content)
        | some _ => none) path.dropLast
  | .element path =>
    match path.getLast? with
    | none => none
    | some last => t.enterHeader? (fun parent =>
        match parent.find? last with
        | none => (Entries.putAll? [] s.values).map fun content =>
            parent ++ [(last, .tables [content])]
        | some (.tables elements) => (Entries.putAll? [] s.values).map fun content =>
            parent.set last (.tables (elements ++ [content]))
        | some _ => none) path.dropLast

/-- The document that sections make up. -/
def Entries.ofSections? (sections : List Section) : Option Entries :=
  sections.foldlM (fun t s => s.addTo? t) []

end MethodBinding.Toml
