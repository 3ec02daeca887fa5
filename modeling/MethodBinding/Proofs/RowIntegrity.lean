import MethodBinding.Proofs.Binding.Rows
import Mathlib.Tactic.IntervalCases

/-!
# Row integrity

A row in a table is `Row.Sound` if it shows where it is stored: it has the name that it is stored
under, its owner is the module of the table, and its bounds are in order. Of the rows of a
descriptor this is said by `Descriptor.IsRow.sound`. A pass writes nothing else, whichever of the
two tables a row goes into, so every run that leaves writing to passes keeps all tables sound
(`rows_sound_of_run`).
-/

namespace MethodBinding

variable {s s' : Space} {target owner : ModuleId} {selected : List Declaration} {name : String}
  {r : Row}

/-! ## Sound rows -/

/-- A row shows the place where it is stored, and its bounds leave room for a call. -/
structure Row.Sound (r : Row) (owner : ModuleId) (name : String) : Prop where
  name : r.name = name
  named : r.name ≠ ""
  owner : r.owner = owner
  bounds : ∀ most, r.arity.max = some most → r.arity.min ≤ most

/-- The counts of a descriptor are small enough for their sum not to wrap. -/
theorem Descriptor.min_le_max (d : Descriptor) {most : UInt64}
    (h : d.policy.arity.max = some most) : d.policy.arity.min ≤ most := by
  obtain ⟨hreq, hopt⟩ := d.small
  simp only [Draft.countLimit] at hreq hopt
  simp only [policy, ArityPolicy.resolve] at h ⊢
  split at h
  · cases h
  next hrest =>
  cases h
  rw [if_neg hrest]
  show d.required ≤ d.required + d.optional
  rw [UInt64.le_iff_toNat_le, UInt64.toNat_add, Nat.mod_eq_of_lt (by omega)]
  exact Nat.le_add_right _ _

theorem Descriptor.ne_empty_of_mem_names {d : Descriptor} (h : name ∈ d.names) : name ≠ "" := by
  rintro rfl
  exact d.named h

/-- A row of a descriptor is sound in the table of its owner. -/
theorem Descriptor.IsRow.sound {d : Descriptor} (h : d.IsRow name owner r)
    (hname : name ∈ d.names) : r.Sound owner name where
  name := h.name
  named := h.name ▸ d.ne_empty_of_mem_names hname
  owner := h.owner
  bounds most hmax := by
    have harity : r.arity = d.policy.arity := h.arity
    rw [harity] at hmax ⊢
    exact d.min_le_max hmax

/-- Whether an operation puts entries into a table without a pass. -/
def Operation.IsWrite : Operation → Prop
  | .install .. | .installMany .. => True
  | _ => False

/-! ## Sound tables -/

namespace Space

/-- An entry after a pass was there before, or it is a row of a selected declaration, made for that
name in that table. -/
theorem Rewritten.eq_or_isRow (h : s.Rewritten s' target selected) {id : ModuleId} {e : Entry}
    (he : s'.lookup? id name = some e) : s.lookup? id name = some e ∨
      ∃ c ∈ selected, c.name = name ∧ c.descriptor.IsRow name id e.toRow := by
  by_cases hwritten : ∃ c ∈ selected, c.WrittenAt s' target id name
  · obtain ⟨c, hc, hat⟩ := hwritten
    obtain ⟨e', he', hrow⟩ := h.written hc hat
    cases he'.symm.trans he
    exact .inr ⟨c, hc, hat.name, hrow⟩
  · exact .inl (h.kept hwritten ▸ he)

/-- The rows of all tables are sound. -/
def RowsSound (s : Space) : Prop :=
  ∀ id name e, s.lookup? id name = some e → e.toRow.Sound id name

theorem RowsSound.empty (settings : Settings) : (empty settings).RowsSound := by
  intro id name e he
  cases he

/-- Tables that have got no entry stay sound. -/
theorem RowsSound.mono (h : s.RowsSound)
    (hkeep : ∀ id name e, s'.lookup? id name = some e → s.lookup? id name = some e) :
    s'.RowsSound :=
  fun id name e he => h id name e (hkeep id name e he)

theorem RowsSound.bind (h : s.RowsSound) (ht : s.Tower) (hostType : String)
    (descriptors : List Descriptor) (target : ModuleId) :
    (s.bind hostType descriptors target).space.RowsSound := by
  obtain ⟨-, hb⟩ | ⟨e, -, -, hb⟩ | ⟨selected, singleton, own, sing, s', -, hsel, hinst, hb⟩ :=
    bind_cases ht hostType descriptors target <;> rw [hb]
  · exact h
  · exact h
  intro id name e he
  rcases (hinst.rewritten (selected_nodup hsel)).eq_or_isRow he with hold | ⟨c, hc, rfl, hrow⟩
  · exact h id name e hold
  · exact hrow.sound ((mem_selected hsel).1 hc).1.2

theorem RowsSound.bindHostType (h : s.RowsSound) (ht : s.Tower) (t : HostType)
    (target : ModuleId) : (s.bindHostType t target).space.RowsSound := by
  unfold Space.bindHostType
  cases t.descriptors with
  | error e => exact h
  | ok descriptors => exact h.bind ht t.name descriptors target

/-! ## Runs -/

/-- What is there after a removal was there before. -/
theorem lookup?_of_remove {id other : ModuleId} {removed : String} {e : Entry}
    (h : (s.remove id removed).lookup? other name = some e) : s.lookup? other name = some e := by
  rw [remove, lookup?_modifyMethods] at h
  split at h
  · obtain ⟨m, hm, hfind⟩ := Option.bind_eq_some_iff.1 h
    rw [NameMap.find?_erase] at hfind
    split at hfind
    · cases hfind
    · rw [lookup?, hm]
      exact hfind
  · exact h

/-- An operation other than a write from outside is a pass, or no table gets an entry by it. -/
theorem bind_or_kept (s : Space) {o : Operation} (ho : ¬o.IsWrite) :
    (∃ t target, o = .bind t target) ∨
      ∀ id name e, (s.perform o).lookup? id name = some e → s.lookup? id name = some e := by
  cases o with
  | bind t target => exact .inl ⟨t, target, rfl⟩
  | install id newName e => exact absurd trivial ho
  | installMany id rows => exact absurd trivial ho
  | defineModule newName => exact .inr fun id name e he => lookup?_define s .. ▸ he
  | defineClass newName superclass => exact .inr fun id name e he => lookup?_define s .. ▸ he
  | singletonOf id => exact .inr fun other name e he => lookup?_singletonOf s .. ▸ he
  | remove id removed => exact .inr fun other name e he => lookup?_of_remove he
  | adapter host policy => exact .inr fun _ _ _ he => he
  | stamp r => exact .inr fun _ _ _ he => he

/-- Every operation other than a write from outside keeps all rows sound. -/
theorem RowsSound.perform (h : s.RowsSound) (ht : s.Tower) {o : Operation} (ho : ¬o.IsWrite) :
    (s.perform o).RowsSound := by
  obtain ⟨t, target, rfl⟩ | hkeep := s.bind_or_kept ho
  · exact h.bindHostType ht t target
  · exact h.mono hkeep

theorem RowsSound.run (h : s.RowsSound) (ht : s.Tower) {operations : List Operation}
    (ho : ∀ o ∈ operations, ¬o.IsWrite) : (s.run operations).RowsSound := by
  induction operations generalizing s with
  | nil => exact h
  | cons o operations ih =>
    obtain ⟨ho, hrest⟩ := List.forall_mem_cons.1 ho
    exact ih (h.perform ht ho) (ht.perform o) hrest

end Space

/-- **Every row shows where it is stored.** After a run in which only passes write, each entry in
the table of a module is stored under its name, which is not empty, is owned by that module, and has
bounds in order. -/
theorem rows_sound_of_run {settings : Settings} {operations : List Operation}
    (ho : ∀ o ∈ operations, ¬o.IsWrite) : ((Space.empty settings).run operations).RowsSound :=
  (Space.RowsSound.empty settings).run (Space.Tower.empty settings) ho

/-- A descriptor of two names for a module and its singleton class, then for the latter. One row is
removed again. -/
def fanOutOperations : List Operation :=
  [.defineModule "Math", .bind ⟨"Math", .ok [setupDescriptor, sqrtDescriptor]⟩ ⟨0⟩,
    .bind ⟨"Math", .ok [sqrtDescriptor]⟩ ⟨1⟩, .remove ⟨0⟩ "sqrt"]

def fanOutSpace : Space := (Space.empty .standard).run fanOutOperations

theorem rows_sound_of_fan_out : (∀ o ∈ fanOutOperations, ¬o.IsWrite) ∧ fanOutSpace.RowsSound ∧
    fanOutSpace.lookup? ⟨0⟩ "sqrt" = none ∧
    ∀ id : ModuleId, id.index < 3 →
      ∃ e, fanOutSpace.lookup? id "root" = some e ∧ e.name = "root" ∧ e.owner = id := by
  have ho : ∀ o ∈ fanOutOperations, ¬o.IsWrite := by
    simp [fanOutOperations, Operation.IsWrite]
  have hsound : fanOutSpace.RowsSound := rows_sound_of_run ho
  have hsome : ∀ id : ModuleId, id.index < 3 →
      (fanOutSpace.lookup? id "root").isSome = true := by
    rintro ⟨index⟩ (hlt : index < 3)
    interval_cases index <;> rfl
  refine ⟨ho, hsound, rfl, fun id hlt => ?_⟩
  obtain ⟨e, he⟩ := Option.isSome_iff_exists.1 (hsome id hlt)
  have h := hsound id "root" e he
  exact ⟨e, he, h.name, h.owner⟩

end MethodBinding
