import MethodBinding.Descriptor

/-!
# Selection by version

A list of descriptors declares names, each descriptor its primary name and then its other names.
`select` picks at most one descriptor for each name: the one that is untagged or carries the active
tag. Declaring a name twice under one tag is an error whatever tag is active; being declared both
untagged and under the active tag is an error for the first name that is. Names without an
applicable descriptor are passed over, and reported.
-/

namespace MethodBinding

/-- One name that a list of descriptors declares, and the place of the descriptor in the list. -/
structure Declaration where
  name : String
  index : Nat
  descriptor : Descriptor
deriving DecidableEq

/-- All declared names in order. -/
def declarations (descriptors : List Descriptor) : List Declaration :=
  descriptors.zipIdx.flatMap fun (d, i) => d.names.map fun name => ⟨name, i, d⟩

/-- Whether a descriptor is for the active version: it is untagged or tagged with it. -/
def Descriptor.appliesTo (d : Descriptor) (active : VersionTag) : Bool := d.tag.all (· == active)

/-- What comes of a selection: the picked declarations in order of the first declaration of their
names, or an error, and the names passed over before it was made. -/
structure Selection where
  result : Except DescriptorError (List Declaration)
  skipped : List String

/-- The declarations of a name that are for the active version. -/
def applicable (active : VersionTag) (declared : List Declaration) (name : String) :
    List Declaration :=
  declared.filter fun c => c.name == name && c.descriptor.appliesTo active

/-- Picks a declaration for each of the names, up to the first ambiguous one. -/
def Selection.ofNames (active : VersionTag) (declared : List Declaration) :
    List String → Selection
  | [] => ⟨.ok [], []⟩
  | name :: names =>
    match applicable active declared name with
    | [] =>
      let others := ofNames active declared names
      ⟨others.result, name :: others.skipped⟩
    | [picked] =>
      let others := ofNames active declared names
      ⟨others.result.map (picked :: ·), others.skipped⟩
    | _ => ⟨.error (.ambiguousName name active), []⟩

/-- Selects the declarations of a list of descriptors that are for the active version. -/
def select (descriptors : List Descriptor) (active : VersionTag) : Selection :=
  let declared := declarations descriptors
  match firstRepeat? (declared.map fun c => (c.name, c.descriptor.tag)) with
  | some (name, tag) => ⟨.error (.duplicateName name tag), []⟩
  | none => .ofNames active declared (declared.map (·.name)).eraseDups

end MethodBinding
