import MethodBinding.Proofs.Binding.Pass

/-!
# Runs

Everything that is done to a space is an `Operation`: modules are defined, singleton classes are
asked for, entries are made, written and removed, and host types are bound. A space is `Reachable`
if a run of operations leads to it from an empty one. Each operation keeps the tower of singleton
classes (`Tower.perform`), so every reachable space has it (`Reachable.tower`).
-/

namespace MethodBinding

/-- Something that is done to a space. -/
inductive Operation where
  | defineModule (name : String)
  | defineClass (name : String) (superclass : Option ModuleId)
  | singletonOf (id : ModuleId)
  | install (id : ModuleId) (name : String) (e : Entry)
  | installMany (id : ModuleId) (rows : List (String × Entry))
  | remove (id : ModuleId) (name : String)
  | adapter (host : HostFunction) (policy : ArityPolicy)
  | stamp (r : Row)
  | bind (t : HostType) (target : ModuleId)

namespace Space

variable {s : Space}

/-- The space after an operation. -/
def perform (s : Space) : Operation → Space
  | .defineModule name => s.define name .plain
  | .defineClass name superclass => s.define name (.ofClass superclass)
  | .singletonOf id => (s.singletonOf id).2
  | .install id name e => s.install id name e
  | .installMany id rows => s.modifyMethods id (·.insertMany rows)
  | .remove id name => s.remove id name
  | .adapter host policy => (s.adapter host policy).2
  | .stamp r => (s.stamp r).2
  | .bind t target => (s.bindHostType t target).space

/-- The space after several operations. -/
def run (s : Space) (operations : List Operation) : Space := operations.foldl perform s

theorem run_append (s : Space) (os ps : List Operation) :
    s.run (os ++ ps) = (s.run os).run ps := List.foldl_append

/-- A run from an empty space leads here. -/
def Reachable (s : Space) : Prop := ∃ settings operations, s = (empty settings).run operations

theorem Tower.bindHostType (h : s.Tower) (t : HostType) (target : ModuleId) :
    (s.bindHostType t target).space.Tower := by
  unfold Space.bindHostType
  cases t.descriptors with
  | error e => exact h
  | ok descriptors => exact h.bind t.name descriptors target

/-- Every operation keeps the tower. -/
theorem Tower.perform (h : s.Tower) (o : Operation) : (s.perform o).Tower := by
  cases o with
  | defineModule name => exact h.define fun _ => by simp
  | defineClass name superclass => exact h.define fun _ => by simp
  | singletonOf id => exact h.singletonOf id
  | install id name e => exact h.congr fun _ => outline?_modifyMethods ..
  | installMany id rows => exact h.congr fun _ => outline?_modifyMethods ..
  | remove id name => exact h.congr fun _ => outline?_modifyMethods ..
  | adapter host policy => exact h.congr fun _ => rfl
  | stamp r => exact h.congr fun _ => rfl
  | bind t target => exact h.bindHostType t target

theorem Tower.run (h : s.Tower) (operations : List Operation) : (s.run operations).Tower := by
  induction operations generalizing s with
  | nil => exact h
  | cons o operations ih => exact ih (h.perform o)

theorem Reachable.tower (h : s.Reachable) : s.Tower := by
  obtain ⟨settings, operations, rfl⟩ := h
  exact (Tower.empty settings).run operations

end Space

/-! ## A small run -/

/-- A construction hook without declared visibility. -/
def setupDescriptor : Descriptor :=
  (Draft.ofClauses "initialize" [.host ⟨"setup", .receiver⟩]).descriptor (by decide)

/-- A module function of one argument, under two names, for one version. -/
def sqrtDescriptor : Descriptor :=
  (Draft.ofClauses "sqrt" [.visibility .moduleFunction, .otherName "root", .required 1,
    .tag ⟨"2.0"⟩, .host ⟨"sqrt", .fixed1⟩]).descriptor (by decide)

/-- The same name for an earlier version, in the table of the singleton class alone. -/
def oldSqrtDescriptor : Descriptor :=
  (Draft.ofClauses "sqrt" [.metaScope, .required 1, .tag ⟨"1.8"⟩,
    .host ⟨"sqrt", .fixed1⟩]).descriptor (by decide)

/-- A space with one module. -/
def smallSpace : Space := (Space.empty .standard).run [.defineModule "Math"]

theorem smallSpace_reachable : smallSpace.Reachable := ⟨_, _, rfl⟩

end MethodBinding
