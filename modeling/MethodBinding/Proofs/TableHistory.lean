import MethodBinding.Proofs.Session
import MethodBinding.Proofs.Text.ByteOrder
import Mathlib.Data.List.Induction

/-!
# Method tables and their history

A method table is what has been written into it: under each name it holds the entry that was
written last, unless the name has been removed since (`LastChange`, `find?_tableAfter`). A batch
counts as its rows, one by one (`tableAfter_eq`). The names come out in the order of their bytes,
each once. In a session each step on a table adds a write to its history, and answers what the name
held before it (`Session.TableStep`). The main statement is `table_refines_history`.
-/

namespace MethodBinding

/-- What is written into a method table. -/
inductive TableWrite where
  | install (name : String) (e : Entry)
  | installMany (rows : List (String × Entry))
  | remove (name : String)

namespace TableWrite

def applyTo (t : MethodTable) : TableWrite → MethodTable
  | install name e => t.insert name e
  | installMany rows => t.insertMany rows
  | remove name => t.erase name

/-- The names that are changed, in order, and what they hold then. -/
def changes : TableWrite → List (String × Option Entry)
  | install name e => [(name, some e)]
  | installMany rows => rows.map fun row => (row.1, some row.2)
  | remove name => [(name, none)]

end TableWrite

/-- The table after a history of writes, which was empty at first. -/
def tableAfter (writes : List TableWrite) : MethodTable := writes.foldl TableWrite.applyTo .empty

/-- The last change of a name. -/
def LastChange (changes : List (String × Option Entry)) (name : String) (held : Option Entry) :
    Prop :=
  ∃ before after, changes = before ++ (name, held) :: after ∧ ∀ c ∈ after, c.1 ≠ name

section
variable {changes : List (String × Option Entry)} {name : String} {held : Option Entry}

/-! ## The last change -/

theorem lastChange_concat {c : String × Option Entry} :
    LastChange (changes ++ [c]) name held ↔
      c = (name, held) ∨ c.1 ≠ name ∧ LastChange changes name held := by
  constructor
  · rintro ⟨before, after, h, hlast⟩
    cases after using List.reverseRecOn with
    | nil =>
      obtain ⟨-, hc⟩ := List.append_inj' h rfl
      exact .inl (List.cons.inj hc).1
    | append_singleton after c' =>
      rw [← List.cons_append, ← List.append_assoc] at h
      obtain ⟨hfront, hc⟩ := List.append_inj' h rfl
      have hc' := (List.cons.inj hc).1
      subst hc'
      exact .inr ⟨hlast _ (by simp), before, after, hfront, fun d hd => hlast d (by simp [hd])⟩
  · rintro (rfl | ⟨hne, before, after, rfl, hlast⟩)
    · exact ⟨changes, [], rfl, fun _ h => nomatch h⟩
    · refine ⟨before, after ++ [c], by simp, fun d hd => ?_⟩
      rcases List.mem_append.1 hd with hd | hd
      · exact hlast d hd
      · rw [List.mem_singleton.1 hd]
        exact hne

/-- One change of a table. -/
def change (t : MethodTable) (c : String × Option Entry) : MethodTable :=
  match c.2 with
  | some e => t.insert c.1 e
  | none => t.erase c.1

theorem find?_change (t : MethodTable) (c : String × Option Entry) (name : String) :
    (change t c).find? name = if c.1 = name then c.2 else t.find? name := by
  unfold change
  split
  · next he => rw [NameMap.find?_insert, he]
  · next he => rw [NameMap.find?_erase, he]

/-- A name holds what its last change says, and nothing if it was never changed. -/
theorem find?_foldl_change :
    (changes.foldl change .empty).find? name = held ↔
      LastChange changes name held ∨ (∀ c ∈ changes, c.1 ≠ name) ∧ held = none := by
  induction changes using List.reverseRecOn with
  | nil =>
    have hno : ¬LastChange [] name held := by
      rintro ⟨before, after, h, -⟩
      simp at h
    simp [hno, eq_comm]
  | append_singleton changes c ih =>
    rw [List.foldl_append, List.foldl_cons, List.foldl_nil, find?_change, lastChange_concat]
    by_cases hc : c.1 = name
    · rw [if_pos hc]
      constructor
      · rintro rfl
        exact .inl (.inl (hc ▸ rfl))
      · rintro ((rfl | ⟨hne, -⟩) | ⟨hnone, -⟩)
        · rfl
        · exact absurd hc hne
        · exact absurd hc (hnone c (by simp))
    · rw [if_neg hc, ih]
      have hne : c ≠ (name, held) := by
        rintro rfl
        exact hc rfl
      simp [hc, hne, or_imp, forall_and]

end

/-! ## Histories -/

theorem foldl_changes (t : MethodTable) (w : TableWrite) :
    w.changes.foldl change t = w.applyTo t := by
  cases w with
  | install name e => rfl
  | installMany rows =>
    rw [TableWrite.changes, List.foldl_map]
    rfl
  | remove name => rfl

/-- A batch counts as its rows, written one by one. -/
theorem tableAfter_eq (writes : List TableWrite) :
    tableAfter writes = (writes.flatMap (·.changes)).foldl change .empty := by
  rw [tableAfter, List.foldl_flatMap]
  congr 1
  funext t w
  exact (foldl_changes t w).symm

theorem tableAfter_concat (writes : List TableWrite) (w : TableWrite) :
    tableAfter (writes ++ [w]) = w.applyTo (tableAfter writes) := by
  rw [tableAfter, List.foldl_append]
  rfl

theorem find?_tableAfter {writes : List TableWrite} {name : String} {held : Option Entry} :
    (tableAfter writes).find? name = held ↔
      LastChange (writes.flatMap (·.changes)) name held ∨
        (∀ c ∈ writes.flatMap (·.changes), c.1 ≠ name) ∧ held = none := by
  rw [tableAfter_eq]
  exact find?_foldl_change

/-! ## Steps of a session -/

/-- A step of a session, with its answer and the table that a module has after it. -/
structure Session.TableStep (s : Session) (does : Interpretation) (c : Command) (id : ModuleId)
    (answer : Answer) (table : MethodTable) : Prop where
  answers : (s.step does c).1 = answer
  leaves : ((s.step does c).2.space.module? id).map (·.methods) = some table

section
variable {s : Session} {does : Interpretation} {id : ModuleId} {m : Module} {key : Option String}

theorem methods_modifyMethods {space : Space} (hm : space.module? id = some m)
    (f : MethodTable → MethodTable) :
    ((space.modifyMethods id f).module? id).map (·.methods) = some (f m.methods) := by
  rw [Space.modifyMethods, Space.module?_modify, if_pos rfl, hm]
  rfl

theorem tableStep_of_answerEntry (key : Option String) {c : Command} {space : Space}
    {held : Option Entry} {table : MethodTable}
    (hstep : s.step does c = Session.answerEntry { s with space } key held)
    (htable : (space.module? id).map (·.methods) = some table) :
    s.TableStep does c id (.entry held) table where
  answers := by rw [hstep, Session.answerEntry]
  leaves := by
    rw [hstep, Session.answerEntry, Session.keep_space]
    exact htable

theorem tableStep_defineModule (name : String) :
    s.TableStep does (.defineModule name) s.space.nextId (.number s.space.nextId)
      (tableAfter []) where
  answers := rfl
  leaves := by
    simp only [Session.step, Space.define]
    rw [Space.module?_register, if_pos rfl]
    rfl

theorem tableStep_lookup (hm : s.space.module? id = some m) (name : String) :
    s.TableStep does (.lookup id name key) id (.entry (m.methods.find? name)) m.methods := by
  have htable : (s.space.module? id).map (·.methods) = some m.methods := by rw [hm]; rfl
  refine tableStep_of_answerEntry key ?_ htable
  simp only [Session.step, Session.onTable, hm]

theorem tableStep_install {name entry : String} {e : Entry} (hm : s.space.module? id = some m)
    (he : s.kept.find? entry = some e) :
    s.TableStep does (.install id name entry key) id (.entry (m.methods.find? name))
      (m.methods.insert name e) := by
  refine tableStep_of_answerEntry key ?_ (methods_modifyMethods hm (·.insert name e))
  simp only [Session.step, Session.onKept, he, Session.onTable, hm, Space.install]

theorem tableStep_remove {name : String} (hm : s.space.module? id = some m) :
    s.TableStep does (.remove id name key) id (.entry (m.methods.find? name))
      (m.methods.erase name) := by
  refine tableStep_of_answerEntry key ?_ (methods_modifyMethods hm (·.erase name))
  simp only [Session.step, Session.onTable, hm, Space.remove]

theorem tableStep_installBatch {names : List (String × String)} {rows : List (String × Entry)}
    (hm : s.space.module? id = some m)
    (hrows : names.mapM (fun (name, entry) => (s.kept.find? entry).map (name, ·)) = some rows) :
    s.TableStep does (.installBatch id names) id (.names (m.methods.insertMany rows).names)
      (m.methods.insertMany rows) := by
  have hstep : s.step does (.installBatch id names) =
      (.names (m.methods.insertMany rows).names,
        { s with space := s.space.modifyMethods id fun _ => m.methods.insertMany rows }) := by
    simp only [Session.step, hrows, Session.onTable, hm]
  refine ⟨by rw [hstep], ?_⟩
  rw [hstep]
  exact methods_modifyMethods hm fun _ => m.methods.insertMany rows

end

/-! ## What a table shows -/

/-- The names that hold an entry come out in the same order, however they are listed first. -/
theorem mergeSort_eq_names {t : MethodTable} {keys : List String} (hnodup : keys.Nodup)
    (hkeys : ∀ name, name ∈ keys ↔ (t.find? name).isSome = true) :
    keys.mergeSort (fun a b => decide (a ≤ b)) = t.names := by
  have hsort : (keys.mergeSort fun a b => decide (a ≤ b)).Pairwise fun a b => decide (a ≤ b) := by
    refine List.pairwise_mergeSort (fun a b c hab hbc => ?_) (fun a b => ?_) keys
    · exact decide_eq_true (String.le_trans (of_decide_eq_true hab) (of_decide_eq_true hbc))
    · simp [String.le_total a b]
  have hsorted : (keys.mergeSort fun a b => decide (a ≤ b)).Pairwise (· ≤ ·) :=
    hsort.imp of_decide_eq_true
  have hle : t.names.Pairwise (· ≤ ·) := t.names_ascending.imp Std.le_of_lt
  have hnames : t.names.Nodup := t.names_ascending.imp fun hlt => Std.ne_of_lt hlt
  have hperm : keys.Perm t.names :=
    (List.perm_ext_iff_of_nodup hnodup hnames).2 fun name =>
      (hkeys name).trans NameMap.isSome_find?
  exact ((List.mergeSort_perm keys _).trans hperm).eq_of_pairwise
    (fun _ _ _ _ => String.le_antisymm) hsorted hle

/-- What a table tells in other ways than by a look-up agrees with its look-ups. -/
structure MethodTable.Coherent (t : MethodTable) : Prop where
  ascending : t.names.Pairwise BytesBefore
  mem_names : ∀ name, name ∈ t.names ↔ (t.find? name).isSome = true
  sorted : ∀ keys : List String, keys.Nodup →
    (∀ name, name ∈ keys ↔ (t.find? name).isSome = true) →
      keys.mergeSort (fun a b => decide (a ≤ b)) = t.names
  size : t.size = t.names.length
  contains : ∀ name, t.contains name = true ↔ (t.find? name).isSome = true
  isEmpty : t.isEmpty = true ↔ t.size = 0

theorem MethodTable.coherent (t : MethodTable) : t.Coherent where
  ascending := t.names_ascending.imp BytesBefore.of_lt
  mem_names _ := NameMap.isSome_find?.symm
  sorted _ hnodup hkeys := mergeSort_eq_names hnodup hkeys
  size := t.size_eq
  contains _ := NameMap.contains_iff.trans NameMap.isSome_find?.symm
  isEmpty := NameMap.isEmpty_iff

/-- After any history of writes to a table that was empty at first, a look-up of a name gives the
entry of its last change, where a batch counts as its rows, one by one, and a removal leaves
nothing. Names, size and emptiness agree with that, and the names are in strictly ascending order of
their bytes. Every step of a session on the table answers what the name held just before it and
carries the history on. -/
theorem table_refines_history (writes : List TableWrite) :
    (∀ name e, (tableAfter writes).find? name = some e ↔
      LastChange (writes.flatMap (·.changes)) name (some e)) ∧
    (∀ name, (tableAfter writes).find? name = none ↔
      LastChange (writes.flatMap (·.changes)) name none ∨
        ∀ c ∈ writes.flatMap (·.changes), c.1 ≠ name) ∧
    (tableAfter writes).Coherent ∧
    (∀ (s : Session) (does : Interpretation) (name : String),
      s.TableStep does (.defineModule name) s.space.nextId (.number s.space.nextId)
        (tableAfter [])) ∧
    (∀ (s : Session) (does : Interpretation) (id : ModuleId) (m : Module) (key : Option String),
      s.space.module? id = some m → m.methods = tableAfter writes →
        (∀ name, s.TableStep does (.lookup id name key) id
          (.entry ((tableAfter writes).find? name)) (tableAfter writes)) ∧
        (∀ name entry e, s.kept.find? entry = some e →
          s.TableStep does (.install id name entry key) id
            (.entry ((tableAfter writes).find? name)) (tableAfter (writes ++ [.install name e]))) ∧
        (∀ name, s.TableStep does (.remove id name key) id
          (.entry ((tableAfter writes).find? name)) (tableAfter (writes ++ [.remove name]))) ∧
        (∀ names rows,
          names.mapM (fun (name, entry) => (s.kept.find? entry).map (name, ·)) = some rows →
          s.TableStep does (.installBatch id names) id
            (.names (tableAfter (writes ++ [.installMany rows])).names)
            (tableAfter (writes ++ [.installMany rows])))) := by
  refine ⟨fun name e => ?_, fun name => ?_, MethodTable.coherent _,
    fun s does name => tableStep_defineModule name, fun s does id m key hm hmethods => ?_⟩
  · rw [find?_tableAfter]
    simp
  · rw [find?_tableAfter]
    simp
  rw [← hmethods]
  refine ⟨tableStep_lookup hm, fun name entry e he => ?_, fun name => ?_,
    fun names rows hrows => ?_⟩
  · rw [tableAfter_concat, ← hmethods]
    exact tableStep_install hm he
  · rw [tableAfter_concat, ← hmethods]
    exact tableStep_remove hm
  · rw [tableAfter_concat, ← hmethods]
    exact tableStep_installBatch hm hrows

/-- Entries with the same row. -/
def twin (stamp : Nat) : Entry where
  name := "sqrt"
  owner := ⟨0⟩
  visibility := .pub
  arity := .fixed 1
  check := true
  adapter := ⟨0, ⟨"sqrt", .fixed1⟩, .fixed 1, true⟩
  stamp := stamp

/-- A batch with a name twice, and a name that goes away again. -/
def twinWrites : List TableWrite :=
  [.install "étude" (twin 0), .installMany [("zero", twin 1), ("a", twin 2), ("zero", twin 3)],
    .remove "a"]

def twinSession : Session where
  space := smallSpace.modifyMethods ⟨0⟩ fun _ => tableAfter twinWrites
  kept := .empty

theorem later_twin_is_held :
    (tableAfter twinWrites).find? "zero" = some (twin 3) ∧
      (tableAfter twinWrites).find? "a" = none ∧ BytesBefore "zero" "étude" ∧
      ∀ does, (twinSession.step does (.remove ⟨0⟩ "zero" none)).1 = .entry (some (twin 3)) := by
  obtain ⟨hheld, hgone, hcoherent, -, hsteps⟩ := table_refines_history twinWrites
  have hzero : (tableAfter twinWrites).find? "zero" = some (twin 3) :=
    (hheld _ _).2 ⟨[_, _, _], [_], rfl, by decide⟩
  have hnames : (tableAfter twinWrites).names = ["zero", "étude"] := by decide
  have hascending := hcoherent.ascending
  rw [hnames] at hascending
  refine ⟨hzero, (hgone _).2 (.inl ⟨[_, _, _, _], [], rfl, by decide⟩),
    (List.pairwise_cons.1 hascending).1 _ (List.mem_singleton.2 rfl), fun does => ?_⟩
  obtain ⟨-, -, hremove, -⟩ := hsteps twinSession does ⟨0⟩ _ none rfl rfl
  exact hzero ▸ (hremove "zero").answers

end MethodBinding
