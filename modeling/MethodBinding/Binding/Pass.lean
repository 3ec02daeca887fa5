import MethodBinding.Binding.Event
import MethodBinding.Binding.Placement
import MethodBinding.Binding.Selection
import MethodBinding.Space

/-!
# Binding passes

`Space.bind` installs the methods that a list of descriptors declares into a module. A pass first
plans (`Space.plan`): it selects the declarations of the active version, gives each of their
descriptors one adapter, and resolves name, visibility and table of each row. Only then it installs
(`Space.install`): it creates the singleton class of the target if a row needs it, and writes one
batch into each of the two tables. A pass that fails while planning changes nothing.
-/

namespace MethodBinding

/-! ## Planning -/

/-- The rows of one bound name before they have an owner. -/
structure PlannedMethod where
  name : String
  onModule : Option Row
  onSingleton : Option Row
deriving DecidableEq

/-- The methods to install, and how many adapters they use. -/
structure Plan where
  methods : List PlannedMethod
  adapters : Nat

/-- The indices of the descriptors that some declaration stands for, in order of first mention. -/
def descriptorOrder (selected : List Declaration) : List Nat :=
  (selected.map (·.index)).eraseDups

/-- The row from which all rows of a descriptor are made, with the adapter of that identity. -/
def Descriptor.baseRow (d : Descriptor) (target : ModuleId) (identity : Nat) : Row where
  name := d.name
  owner := target
  visibility := .pub
  arity := d.policy.arity
  check := d.policy.check
  adapter := ⟨identity, d.host, d.policy⟩

/-- The rows of one selected declaration. -/
def PlannedMethod.ofDeclaration (settings : Settings) (target : ModuleId) (identity : Nat)
    (c : Declaration) : PlannedMethod :=
  let row := (c.descriptor.baseRow target identity).withName c.name
  let placement := c.descriptor.placement settings c.name
  { name := c.name
    onModule := placement.onModule.map row.withVisibility
    onSingleton := placement.onSingleton.map row.withVisibility }

/-- The plan for the selected declarations. Adapters are numbered from `first` on, in the order in
which their descriptors are first mentioned. -/
def Plan.ofSelected (settings : Settings) (target : ModuleId) (first : Nat)
    (selected : List Declaration) : Plan :=
  let order := descriptorOrder selected
  { methods := selected.map fun c =>
      .ofDeclaration settings target (first + order.idxOf c.index) c
    adapters := order.length }

/-- Everything up to the point where the space changes, and the events reported on the way. -/
def Space.plan (s : Space) (hostType : String) (descriptors : List Descriptor)
    (target : ModuleId) : Except BindError Plan × List Event :=
  match s.module? target with
  | none => (.error (.unknownModule hostType target), [])
  | some _ =>
    let selection := select descriptors s.settings.active
    let skipped := selection.skipped.map fun name => .noDescriptor name s.settings.active
    match selection.result with
    | .error e => (.error (.ofDescriptor hostType e), skipped)
    | .ok selected => (.ok (.ofSelected s.settings target s.next selected), skipped)

/-! ## Installing -/

/-- One bound name and the entries installed for it. -/
structure BoundMethod where
  name : String
  onModule : Option Entry
  onSingleton : Option Entry
deriving DecidableEq

/-- The entry in the target's own table if there is one, else that in its singleton class. -/
def BoundMethod.entry? (b : BoundMethod) : Option Entry := b.onModule.or b.onSingleton

/-- Makes entries of the rows that are there, owned by `owner` and stamped from `next` on. Also
returns the next unused stamp. -/
def stampRows (owner : ModuleId) : Nat → List (Option Row) → List (Option Entry) × Nat
  | next, [] => ([], next)
  | next, none :: rows =>
    let (entries, after) := stampRows owner next rows
    (none :: entries, after)
  | next, some row :: rows =>
    let (entries, after) := stampRows owner (next + 1) rows
    (some { row.withOwner owner with stamp := next } :: entries, after)

/-- Writes rows into the table of a module in one batch. -/
def Space.writeRows (s : Space) (owner : ModuleId) (rows : List (Option Row)) :
    List (Option Entry) × Space :=
  let (entries, next) := stampRows owner s.next rows
  let batch := entries.filterMap fun e => e.map fun e => (e.name, e)
  (entries, ({ s with next }).modifyMethods owner (·.insertMany batch))

/-- The events of the rows that were written. -/
def installingEvents (entries : List (Option Entry)) : List Event :=
  entries.filterMap fun e => e.map (.installing ·.toRow)

/-- The bound methods of a plan, given the entries for either table. -/
def boundMethods (methods : List PlannedMethod) (onModule onSingleton : List (Option Entry)) :
    List BoundMethod :=
  (methods.zip (onModule.zip onSingleton)).map fun (m, e, e') => ⟨m.name, e, e'⟩

/-- Installs planned methods: the rows of the target first, then those of its singleton class, which
is created only if there are any. -/
def Space.installPlan (s : Space) (hostType : String) (target : ModuleId)
    (methods : List PlannedMethod) : Except BindError (List BoundMethod) × Space × List Event :=
  let unknown := BindError.unknownModule hostType target
  let onModule := methods.map (·.onModule)
  let onSingleton := methods.map (·.onSingleton)
  match s.module? target with
  | none => (.error unknown, s, [])
  | some _ =>
    if onSingleton.all (·.isNone) then
      let (entries, s) := s.writeRows target onModule
      (.ok (boundMethods methods entries (onSingleton.map fun _ => none)), s,
        installingEvents entries)
    else
      match s.singletonOf target with
      | (none, s) => (.error unknown, s, [])
      | (some singleton, s) =>
        match s.module? singleton with
        | none => (.error unknown, s, [])
        | some _ =>
          let (entries, s) := s.writeRows target onModule
          let (singletonEntries, s) := s.writeRows singleton onSingleton
          (.ok (boundMethods methods entries singletonEntries), s,
            installingEvents entries ++ installingEvents singletonEntries)

/-! ## The pass -/

/-- What comes of a binding pass. -/
structure PassOutcome where
  result : Except BindError (List BoundMethod)
  space : Space
  log : List LogRecord

/-- Binds descriptors into a target module. -/
def Space.bind (s : Space) (hostType : String) (descriptors : List Descriptor)
    (target : ModuleId) : PassOutcome :=
  let logged (events : List Event) : List LogRecord := events.map (⟨·, some ⟨hostType, target⟩⟩)
  match s.plan hostType descriptors target with
  | (.error e, events) => ⟨.error e, s, logged (events ++ [.aborted e])⟩
  | (.ok plan, events) =>
    let s := { s with next := s.next + plan.adapters }
    match s.installPlan hostType target plan.methods with
    | (.error e, s, _) => ⟨.error e, s, logged (events ++ [.aborted e])⟩
    | (.ok bound, s, installed) =>
      ⟨.ok bound, s, logged (events ++ installed ++ [.complete bound.length])⟩

/-- A host type: a name for messages, and the descriptors of its methods or the error that kept one
of them from being built. -/
structure HostType where
  name : String
  descriptors : Except DescriptorError (List Descriptor)

/-- Binds all methods of a host type into a target module. -/
def Space.bindHostType (s : Space) (t : HostType) (target : ModuleId) : PassOutcome :=
  match t.descriptors with
  | .error e => ⟨.error (.ofDescriptor t.name e), s, [⟨.collectionFailed t.name e, none⟩]⟩
  | .ok descriptors => s.bind t.name descriptors target

end MethodBinding
