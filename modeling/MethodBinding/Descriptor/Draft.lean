import MethodBinding.Call.Arity
import MethodBinding.Descriptor.Error
import MethodBinding.Repetition

/-!
# Drafts of descriptors

A `Draft` is the metadata of a method before it has been checked. It starts as a name
(`Draft.named`) and takes up one `Clause` after the other; where two clauses say different things,
the later one counts. `Draft.fault?` is the first fault of a draft.
-/

namespace MethodBinding

/-- Method metadata, not yet checked. -/
structure Draft where
  name : String
  aliases : List String
  required : Int64
  optional : Int64
  rest : Bool
  checking : Checking
  visibility : DeclaredVisibility
  moduleScope : Bool
  metaScope : Bool
  tag : Option VersionTag
  host : Option HostFunction
deriving DecidableEq

/-- One statement about a method. -/
inductive Clause where
  | required (count : Int64)
  | optional (count : Int64)
  | rest
  | checkArity (enabled : Bool)
  | visibility (visibility : DeclaredVisibility)
  | moduleScope
  | metaScope
  | tag (tag : VersionTag)
  | otherName (name : String)
  | host (host : HostFunction)
deriving DecidableEq

namespace Draft

/-- The draft of a method about which nothing but its name is said. -/
def named (name : String) : Draft where
  name := name
  aliases := []
  required := 0
  optional := 0
  rest := false
  checking := .byDefault
  visibility := .unset
  moduleScope := false
  metaScope := false
  tag := none
  host := none

/-- Takes up a clause. Flags stay set, other names are collected, and all else is replaced. -/
def add (d : Draft) : Clause → Draft
  | .required count => { d with required := count }
  | .optional count => { d with optional := count }
  | .rest => { d with rest := true }
  | .checkArity enabled => { d with checking := .ofBool enabled }
  | .visibility visibility => { d with visibility }
  | .moduleScope => { d with moduleScope := true }
  | .metaScope => { d with metaScope := true }
  | .tag tag => { d with tag := some tag }
  | .otherName name => { d with aliases := d.aliases ++ [name] }
  | .host host => { d with host := some host }

/-- The draft of `name` with all clauses taken up in order. -/
def ofClauses (name : String) (clauses : List Clause) : Draft := clauses.foldl add (named name)

/-! ## Faults -/

/-- The name followed by the other names. -/
def names (d : Draft) : List String := d.name :: d.aliases

/-- Counts are signed words that are not negative, so they lie below this number. -/
def countLimit : Nat := 9223372036854775808

/-- A count that is negative or needs more than a machine word. -/
def countFault? (name : String) (field : CountField) (count : Int64) : Option DescriptorError :=
  if count < 0 then some (.negativeCount name field count)
  else if UInt64.size ≤ count.toInt then some (.countTooLarge name field count)
  else none

/-- The faults of a draft whose host function is known: the shape cannot represent the counts, slots
would have to be padded because nothing is checked, or two scopes exclude each other. -/
def hostFault? (d : Draft) (host : HostFunction) : Option DescriptorError :=
  match host.shape.countFault? d.required.toUInt64 d.optional.toUInt64 d.rest with
  | some fault => some (.shapeMismatch d.name host.shape fault.reason)
  | none =>
    if host.shape.hasSlots && !d.checking.isOn then some (.uncheckedFixedArity d.name host.shape)
    else if d.metaScope && (d.moduleScope || d.visibility == .moduleFunction) then
      some (.conflictingScope d.name)
    else none

/-- The first fault of a draft. -/
def fault? (d : Draft) : Option DescriptorError :=
  if "" ∈ d.names then some .emptyName
  else
    match firstRepeat? d.names with
    | some name => some (.duplicateAlias d.name name)
    | none =>
      (countFault? d.name .required d.required).or
        ((countFault? d.name .optional d.optional).or
          (match d.host with
            | none => some (.missingHost d.name)
            | some host => d.hostFault? host))

end Draft

end MethodBinding
