import MethodBinding.Settings
import MethodBinding.Space.Row

/-!
# The space of modules

A `Space` holds every module and class, each with its method table and, once it has been asked for,
its singleton class. Modules are numbered in order of creation and never removed. Adapters and
entries are told apart by numbers of which `Space.next` is the least one not used yet.

What changes a space is described by what `Space.module?` and `Space.lookup?` say after it
(`module?_register`, `module?_modify`, `lookup?_modifyMethods`). `Space.search` looks a method up
along the superclass chain (`Space.ancestors`).
-/

namespace MethodBinding

/-- What kind of method container a module is. -/
inductive ModuleKind where
  /-- A module without instances. -/
  | plain
  /-- A class and the class it inherits from. -/
  | ofClass (superclass : Option ModuleId)
  /-- The class of one object, here of another module. -/
  | singleton (attached : ModuleId)
deriving DecidableEq

/-- A module or class. -/
structure Module where
  name : String
  kind : ModuleKind
  methods : MethodTable
  singletonClass : Option ModuleId

namespace Module

/-- A module as it is first defined. -/
def ofKind (name : String) (kind : ModuleKind) : Module := ⟨name, kind, .empty, none⟩

/-- Singleton classes count as classes. -/
def isClass (m : Module) : Bool := m.kind != .plain

def isSingleton (m : Module) : Bool :=
  match m.kind with
  | .singleton _ => true
  | _ => false

/-- The class that a class inherits from. -/
def superclass? (m : Module) : Option ModuleId :=
  match m.kind with
  | .ofClass superclass => superclass
  | _ => none

/-- The module that a singleton class belongs to. -/
def attached? (m : Module) : Option ModuleId :=
  match m.kind with
  | .singleton attached => some attached
  | _ => none

/-- The name of the singleton class of a module with this name. -/
def singletonName (name : String) : String := "#<Class:" ++ name ++ ">"

end Module

/-- All modules and classes, with the settings they live under. -/
structure Space where
  settings : Settings
  modules : List Module
  next : Nat

namespace Space

/-- The space without any module. -/
def empty (settings : Settings) : Space := ⟨settings, [], 0⟩

instance : Inhabited Space := ⟨empty default⟩

/-! ## The registry of modules -/

/-- The module with a number. -/
def module? (s : Space) (id : ModuleId) : Option Module := s.modules[id.index]?

/-- The number that the next module gets. -/
def nextId (s : Space) : ModuleId := ⟨s.modules.length⟩

/-- Adds a module. -/
def register (s : Space) (m : Module) : Space := { s with modules := s.modules ++ [m] }

/-- A module is there exactly for the numbers below the next one. -/
theorem module?_isSome {s : Space} {id : ModuleId} :
    (s.module? id).isSome = true ↔ id.index < s.modules.length := by
  simp [module?]

theorem module?_register (s : Space) (m : Module) (id : ModuleId) :
    (s.register m).module? id = if id = s.nextId then some m else s.module? id := by
  have same : id = s.nextId ↔ id.index = s.modules.length := by
    cases id; simp [nextId]
  by_cases h : id.index = s.modules.length
  · simp [module?, register, same, h]
  · simp only [module?, register, same, h, if_false]
    rcases Nat.lt_or_gt_of_ne h with lt | gt
    · exact List.getElem?_append_left lt
    · rw [List.getElem?_eq_none (by simpa using Nat.succ_le_of_lt gt),
        List.getElem?_eq_none (Nat.le_of_lt gt)]

/-- Defines a module, whose number is `s.nextId`. -/
def define (s : Space) (name : String) (kind : ModuleKind) : Space :=
  s.register (.ofKind name kind)

/-- The first module with a name; singleton classes cannot be found by name. -/
def moduleNamed? (s : Space) (name : String) : Option Module :=
  s.modules.find? fun m => !m.isSingleton && m.name == name

/-- Changes one module. -/
def modify (s : Space) (id : ModuleId) (f : Module → Module) : Space :=
  { s with modules := s.modules.modify id.index f }

theorem module?_modify (s : Space) (id other : ModuleId) (f : Module → Module) :
    (s.modify id f).module? other =
      if id = other then (s.module? other).map f else s.module? other := by
  have same : id = other ↔ id.index = other.index := by
    cases id; cases other; simp
  simp only [module?, modify, List.getElem?_modify, same]
  split <;> simp

/-- The singleton class of a module. It is created the first time it is asked for; there is none for
a number without a module. -/
def singletonOf (s : Space) (id : ModuleId) : Option ModuleId × Space :=
  match s.module? id with
  | none => (none, s)
  | some m =>
    match m.singletonClass with
    | some singleton => (some singleton, s)
    | none =>
      let created := s.define (Module.singletonName m.name) (.singleton id)
      (some s.nextId, created.modify id fun m => { m with singletonClass := some s.nextId })

/-! ## Methods -/

/-- The entry under a name in a module's own table. -/
def lookup? (s : Space) (id : ModuleId) (name : String) : Option Entry :=
  (s.module? id).bind (·.methods.find? name)

/-- Changes the method table of a module. -/
def modifyMethods (s : Space) (id : ModuleId) (f : MethodTable → MethodTable) : Space :=
  s.modify id fun m => { m with methods := f m.methods }

theorem lookup?_modifyMethods (s : Space) (id other : ModuleId) (f : MethodTable → MethodTable)
    (name : String) :
    (s.modifyMethods id f).lookup? other name =
      if id = other then (s.module? other).bind fun m => (f m.methods).find? name
      else s.lookup? other name := by
  simp only [lookup?, modifyMethods, module?_modify]
  split
  · cases s.module? other <;> rfl
  · rfl

/-- Puts an entry into a module's own table, in place of the one under that name. -/
def install (s : Space) (id : ModuleId) (name : String) (e : Entry) : Space :=
  s.modifyMethods id (·.insert name e)

/-- Removes the entry under a name from a module's own table. -/
def remove (s : Space) (id : ModuleId) (name : String) : Space :=
  s.modifyMethods id (·.erase name)

/-- The first `count` modules on the superclass chain from `id` on. The chain ends where a number
has no module. -/
def ancestors (s : Space) (id : ModuleId) : Nat → List Module
  | 0 => []
  | count + 1 =>
    match s.module? id with
    | none => []
    | some m =>
      match m.superclass? with
      | none => [m]
      | some superclass => m :: s.ancestors superclass count

/-- The method under a name on a module or the nearest of its superclasses. A chain that does not
come back to a module visits at most as many modules as there are. -/
def search (s : Space) (id : ModuleId) (name : String) : Option Entry :=
  (s.ancestors id s.modules.length).findSome? (·.methods.find? name)

/-! ## Identities -/

/-- Makes a row an entry, with a stamp that no entry has yet. -/
def stamp (s : Space) (r : Row) : Entry × Space :=
  ({ r with stamp := s.next }, { s with next := s.next + 1 })

/-- An adapter with an identity that no adapter has yet. -/
def adapter (s : Space) (host : HostFunction) (policy : ArityPolicy) : Adapter × Space :=
  (⟨s.next, host, policy⟩, { s with next := s.next + 1 })

/-- The identities of the adapters in all tables, in order of module and name, each once. -/
def adapterIdentities (s : Space) : List Nat :=
  (s.modules.flatMap fun m => m.methods.bindings.map (·.2.adapter.identity)).eraseDups

end Space

end MethodBinding
