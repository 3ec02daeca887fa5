import MethodBinding.Proofs.Binding.Adapters
import MethodBinding.Proofs.RowIntegrity

/-!
# Provenance of adapters

The entries of a run come from its passes: an entry that a table holds at some point, or that a pass
answers, has been made by one pass for one descriptor of its list (`Entry.ComesFrom`), as long as
only passes write.

The supply of identities never goes down along a run (`next_le_run`), and a pass takes its
identities from those that the supply has still to give (`Entry.ComesFrom.identity_bounds`). So the
adapter of an entry tells the pass and the descriptor that the entry comes from
(`adapters_shared_within_descriptor`).
-/

namespace MethodBinding

variable {s : Space} {settings : Settings} {operations : List Operation} {o : Operation}
  {e e' : Entry} {p p' i i' : Nat}

/-- Step `p` of a run is a pass, which answers the entry for the descriptor at place `i` of its
list. -/
def Entry.ComesFrom (e : Entry) (s : Space) (operations : List Operation) (p i : Nat) : Prop :=
  ∃ hostType descriptors target,
    operations[p]? = some (.bind ⟨hostType, .ok descriptors⟩ target) ∧
      (s.run (operations.take p)).Answers hostType descriptors target i e

/-- An entry that can be got from a run: a table holds it at some point, or a pass answers it. -/
inductive Entry.Obtained (e : Entry) (s : Space) (operations : List Operation) : Prop where
  | held (count : Nat) (id : ModuleId) (name : String)
      (h : (s.run (operations.take count)).lookup? id name = some e)
  | answered (p : Nat) (t : HostType) (target : ModuleId) (bound : List BoundMethod)
      (hp : operations[p]? = some (.bind t target))
      (hbound : ((s.run (operations.take p)).bindHostType t target).result = .ok bound)
      (b : BoundMethod) (hb : b ∈ bound) (h : b.onModule = some e ∨ b.onSingleton = some e)

namespace Space

/-! ## The supply along a run -/

theorem next_le_bindHostType (s : Space) (t : HostType) (target : ModuleId) :
    s.next ≤ (s.bindHostType t target).space.next := by
  unfold bindHostType
  cases t.descriptors with
  | error error => exact Nat.le_refl _
  | ok descriptors => exact next_le_bind ..

theorem next_le_perform (s : Space) (o : Operation) : s.next ≤ (s.perform o).next := by
  cases o with
  | bind t target => exact s.next_le_bindHostType t target
  | singletonOf id => exact Nat.le_of_eq (s.next_singletonOf id).symm
  | adapter host policy => exact Nat.le_succ _
  | stamp r => exact Nat.le_succ _
  | defineModule | defineClass | install | installMany | remove => exact Nat.le_refl _

/-- The supply never goes down. -/
theorem next_le_run (s : Space) (operations : List Operation) :
    s.next ≤ (s.run operations).next := by
  induction operations generalizing s with
  | nil => exact Nat.le_refl _
  | cons o operations ih => exact Nat.le_trans (s.next_le_perform o) (ih (s.perform o))

theorem next_le_run_take (s : Space) (operations : List Operation) {m n : Nat} (h : m ≤ n) :
    (s.run (operations.take m)).next ≤ (s.run (operations.take n)).next := by
  obtain ⟨more, rfl⟩ := Nat.exists_eq_add_of_le h
  rw [List.take_add, run_append]
  exact next_le_run ..

theorem run_take_succ (s : Space) (h : operations[p]? = some o) :
    s.run (operations.take (p + 1)) = (s.run (operations.take p)).perform o := by
  rw [List.take_add_one, h, run_append]
  rfl

end Space

/-! ## Where entries come from -/

/-- The pass that an entry comes from takes the identity of its adapter from the supply. -/
theorem Entry.ComesFrom.identity_bounds (he : e.ComesFrom s operations p i) (h : s.Tower) :
    (s.run (operations.take p)).next ≤ e.adapter.identity ∧
      e.adapter.identity < (s.run (operations.take (p + 1))).next := by
  obtain ⟨hostType, descriptors, target, hp, hanswers⟩ := he
  rw [s.run_take_succ hp]
  exact (h.run _).identity_lt_next hanswers

theorem Entry.ComesFrom.identity_lt (he : e.ComesFrom s operations p i)
    (he' : e'.ComesFrom s operations p' i') (h : s.Tower) (hlt : p < p') :
    e.adapter.identity < e'.adapter.identity :=
  calc e.adapter.identity
    _ < (s.run (operations.take (p + 1))).next := (he.identity_bounds h).2
    _ ≤ (s.run (operations.take p')).next := s.next_le_run_take operations hlt
    _ ≤ e'.adapter.identity := (he'.identity_bounds h).1

theorem Entry.ComesFrom.sharesAdapter_iff (he : e.ComesFrom s operations p i)
    (he' : e'.ComesFrom s operations p' i') (h : s.Tower) :
    e.toRow.sharesAdapter e'.toRow = true ↔ p = p' ∧ i = i' := by
  rcases Nat.lt_trichotomy p p' with hlt | rfl | hgt
  · have hne := he.identity_lt he' h hlt
    simp only [Row.sharesAdapter, beq_iff_eq]
    omega
  · obtain ⟨hostType, descriptors, target, hp, hanswers⟩ := he
    obtain ⟨hostType', descriptors', target', hp', hanswers'⟩ := he'
    cases hp.symm.trans hp'
    rw [(h.run _).sharesAdapter_iff hanswers hanswers', eq_self_iff_true, true_and]
  · have hne := he'.identity_lt he h hgt
    simp only [Row.sharesAdapter, beq_iff_eq]
    omega

namespace Space

/-- An entry that a table gets by an operation other than a write from outside is answered by it. -/
theorem Tower.comesFrom_or_kept (h : s.Tower) (hp : operations[p]? = some o) (ho : ¬o.IsWrite)
    {id : ModuleId} {name : String}
    (he : (s.run (operations.take (p + 1))).lookup? id name = some e) :
    (∃ i, e.ComesFrom s operations p i) ∨
      (s.run (operations.take p)).lookup? id name = some e := by
  rw [s.run_take_succ hp] at he
  obtain ⟨⟨hostType, _ | descriptors⟩, target, rfl⟩ | hkept := bind_or_kept _ ho
  · -- the host type could not be built
    exact .inr he
  · refine ((h.run _).answers_or_kept he).imp_left ?_
    rintro ⟨i, hanswers⟩
    exact ⟨i, hostType, descriptors, target, hp, hanswers⟩
  · exact .inr (hkept id name e he)

/-- Every entry of a table comes from a pass of the run, if only passes write. -/
theorem Tower.comesFrom_of_lookup? (h : s.Tower) (hempty : ∀ id name, s.lookup? id name = none)
    (ho : ∀ o ∈ operations, ¬o.IsWrite) {count : Nat} {id : ModuleId} {name : String}
    (he : (s.run (operations.take count)).lookup? id name = some e) :
    ∃ p i, e.ComesFrom s operations p i := by
  induction count with
  | zero => cases (hempty id name).symm.trans he
  | succ count ih =>
    cases hp : operations[count]? with
    | none =>
      -- the run has ended before
      rw [List.take_add_one, hp, Option.toList_none, List.append_nil] at he
      exact ih he
    | some o =>
      obtain hnew | hold := h.comesFrom_or_kept hp (ho o (List.mem_of_getElem? hp)) he
      · exact ⟨count, hnew⟩
      · exact ih hold

end Space

theorem Space.Tower.comesFrom_of_bound (h : s.Tower) {t : HostType} {target : ModuleId}
    {bound : List BoundMethod} (hp : operations[p]? = some (.bind t target))
    (hbound : ((s.run (operations.take p)).bindHostType t target).result = .ok bound)
    {b : BoundMethod} (hb : b ∈ bound) (he : b.onModule = some e ∨ b.onSingleton = some e) :
    ∃ i, e.ComesFrom s operations p i := by
  obtain ⟨hostType, _ | descriptors⟩ := t
  · cases hbound
  · obtain ⟨i, hanswers⟩ := (h.run _).answers_of_mem hbound hb he
    exact ⟨i, hostType, descriptors, target, hp, hanswers⟩

/-- **Adapters are shared within one descriptor of one pass.** In a run in which only passes write,
each entry that a table holds at some point or that a pass answers comes from some pass and some
descriptor of its list. Two entries share an adapter exactly if they come from the same pass and
the same place in its list: so do all names of a descriptor in both tables, but neither two
descriptors that do the same nor two passes with the same list. -/
theorem adapters_shared_within_descriptor (ho : ∀ o ∈ operations, ¬o.IsWrite) :
    (∀ e : Entry, e.Obtained (.empty settings) operations →
      ∃ p i, e.ComesFrom (.empty settings) operations p i) ∧
    ∀ (e : Entry) (p i : Nat) (e' : Entry) (p' i' : Nat),
      e.ComesFrom (.empty settings) operations p i →
      e'.ComesFrom (.empty settings) operations p' i' →
      (e.toRow.sharesAdapter e'.toRow = true ↔ p = p' ∧ i = i') := by
  have h := Space.Tower.empty settings
  refine ⟨fun e he => ?_, fun e p i e' p' i' he he' => he.sharesAdapter_iff he' h⟩
  cases he with
  | held count id name he => exact h.comesFrom_of_lookup? (fun _ _ => rfl) ho he
  | answered p t target bound hp hbound b hb he =>
    exact ⟨p, h.comesFrom_of_bound hp hbound hb he⟩

/-- Does what `setupDescriptor` does, under another name. -/
def resetDescriptor : Descriptor :=
  (Draft.ofClauses "reset" [.host ⟨"setup", .receiver⟩]).descriptor (by decide)

def twinDescriptors : List Descriptor := [setupDescriptor, resetDescriptor, sqrtDescriptor]

/-- A run that binds the same list twice. -/
def twiceOperations : List Operation :=
  [.defineModule "Math", .bind ⟨"Math", .ok twinDescriptors⟩ ⟨0⟩,
    .bind ⟨"Math", .ok twinDescriptors⟩ ⟨0⟩]

def twiceSpace (count : Nat) : Space := (Space.empty .standard).run (twiceOperations.take count)

/-- The square root has one adapter under both names in both tables. The two methods that do the
same have two, and so have the two passes. -/
theorem adapters_of_twice :
    (∀ o ∈ twiceOperations, ¬o.IsWrite) ∧
    ∃ sqrt root setup reset again : Entry,
      (twiceSpace 2).lookup? ⟨0⟩ "sqrt" = some sqrt ∧
      (twiceSpace 2).lookup? ⟨1⟩ "root" = some root ∧
      (twiceSpace 2).lookup? ⟨0⟩ "initialize" = some setup ∧
      (twiceSpace 2).lookup? ⟨0⟩ "reset" = some reset ∧
      (twiceSpace 3).lookup? ⟨0⟩ "sqrt" = some again ∧
      sqrt.toRow.sharesAdapter root.toRow = true ∧
      setup.toRow.sharesAdapter reset.toRow ≠ true ∧
      sqrt.toRow.sharesAdapter again.toRow ≠ true := by
  have ho : ∀ o ∈ twiceOperations, ¬o.IsWrite := by simp [twiceOperations, Operation.IsWrite]
  obtain ⟨-, hshare⟩ := @adapters_shared_within_descriptor .standard _ ho
  obtain ⟨sqrt, hsqrt, hsqrtFrom⟩ : ∃ e, (twiceSpace 2).lookup? ⟨0⟩ "sqrt" = some e ∧
      e.ComesFrom (.empty .standard) twiceOperations 1 2 :=
    ⟨_, rfl, _, _, _, rfl, _, rfl, _, List.mem_of_getElem? (i := 2) rfl, .inl rfl, _,
      ⟨rfl, by decide⟩, by decide⟩
  obtain ⟨root, hroot, hrootFrom⟩ : ∃ e, (twiceSpace 2).lookup? ⟨1⟩ "root" = some e ∧
      e.ComesFrom (.empty .standard) twiceOperations 1 2 :=
    ⟨_, rfl, _, _, _, rfl, _, rfl, _, List.mem_of_getElem? (i := 3) rfl, .inr rfl, _,
      ⟨rfl, by decide⟩, by decide⟩
  obtain ⟨setup, hsetup, hsetupFrom⟩ : ∃ e, (twiceSpace 2).lookup? ⟨0⟩ "initialize" = some e ∧
      e.ComesFrom (.empty .standard) twiceOperations 1 0 :=
    ⟨_, rfl, _, _, _, rfl, _, rfl, _, List.mem_of_getElem? (i := 0) rfl, .inl rfl, _,
      ⟨rfl, by decide⟩, by decide⟩
  obtain ⟨reset, hreset, hresetFrom⟩ : ∃ e, (twiceSpace 2).lookup? ⟨0⟩ "reset" = some e ∧
      e.ComesFrom (.empty .standard) twiceOperations 1 1 :=
    ⟨_, rfl, _, _, _, rfl, _, rfl, _, List.mem_of_getElem? (i := 1) rfl, .inl rfl, _,
      ⟨rfl, by decide⟩, by decide⟩
  obtain ⟨again, hagain, hagainFrom⟩ : ∃ e, (twiceSpace 3).lookup? ⟨0⟩ "sqrt" = some e ∧
      e.ComesFrom (.empty .standard) twiceOperations 2 2 :=
    ⟨_, rfl, _, _, _, rfl, _, rfl, _, List.mem_of_getElem? (i := 2) rfl, .inl rfl, _,
      ⟨rfl, by decide⟩, by decide⟩
  refine ⟨ho, sqrt, root, setup, reset, again, hsqrt, hroot, hsetup, hreset, hagain,
    (hshare _ _ _ _ _ _ hsqrtFrom hrootFrom).2 ⟨rfl, rfl⟩, fun hsame => ?_, fun hsame => ?_⟩
  · have := ((hshare _ _ _ _ _ _ hsetupFrom hresetFrom).1 hsame).2
    omega
  · have := ((hshare _ _ _ _ _ _ hsqrtFrom hagainFrom).1 hsame).1
    omega

end MethodBinding
