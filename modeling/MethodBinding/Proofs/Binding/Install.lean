import MethodBinding.Binding.Pass
import MethodBinding.Proofs.Space.Tower
import Mathlib.Data.List.Nodup

/-!
# What installing does

`writeRows` writes one row for each name into one table (`lookup?_writeRows`) and leaves outlines
alone. Installing methods whose names are distinct is two such writes, into the table of the target
and into that of its singleton class, which is created first if it is needed. In a space whose
singleton classes form a tower this never fails (`installPlan_ok`), and what comes of it is said by
`Space.Installed`: one equation for all tables and one for all outlines.
-/

namespace MethodBinding

variable {s : Space} {owner target : ModuleId}

/-! ## Stamping -/

@[simp] theorem Row.name_withOwner (r : Row) (owner : ModuleId) :
    (r.withOwner owner).name = r.name := rfl

/-- Stamping keeps rows in place; each gets its owner. -/
theorem stampRows_rows (owner : ModuleId) (next : Nat) (rows : List (Option Row)) :
    (stampRows owner next rows).1.map (Option.map Entry.toRow) =
      rows.map (Option.map (·.withOwner owner)) := by
  induction rows generalizing next with
  | nil => rfl
  | cons row rows ih =>
    cases row with
    | none => simp only [stampRows, List.map_cons, ih, Option.map_none]
    | some r => simp only [stampRows, List.map_cons, ih, Option.map_some]

/-- The names of rows that are there. -/
def rowNames (rows : List (Option Row)) : List String := rows.filterMap (Option.map (·.name))

theorem stampRows_names (owner : ModuleId) (next : Nat) (rows : List (Option Row)) :
    (stampRows owner next rows).1.filterMap (Option.map (·.name)) = rowNames rows := by
  have h := congrArg (List.filterMap (Option.map Row.name)) (stampRows_rows owner next rows)
  simp only [List.filterMap_map, Function.comp_def, Option.map_map] at h
  exact h

theorem le_stampRows (owner : ModuleId) (next : Nat) (rows : List (Option Row)) :
    next ≤ (stampRows owner next rows).2 := by
  induction rows generalizing next with
  | nil => exact Nat.le_refl next
  | cons row rows ih =>
    cases row with
    | none => exact ih next
    | some r => exact Nat.le_of_succ_le (ih (next + 1))

/-! ## One table -/

/-- The first of the entries with a name. -/
def entryNamed? (entries : List (Option Entry)) (name : String) : Option Entry :=
  (entries.filterMap id).find? (·.name == name)

theorem entryNamed?_eq_none {entries : List (Option Entry)}
    (h : entries.all (·.isNone) = true) (name : String) : entryNamed? entries name = none := by
  have : entries.filterMap id = [] := by
    refine List.filterMap_eq_nil_iff.2 fun e he => ?_
    exact Option.isNone_iff_eq_none.1 (List.all_eq_true.1 h e he)
  rw [entryNamed?, this]
  rfl

/-- The bindings that entries are written as. -/
def batchOf (entries : List (Option Entry)) : List (String × Entry) :=
  entries.filterMap fun e => e.map fun e => (e.name, e)

theorem batchOf_names (entries : List (Option Entry)) :
    (batchOf entries).map (·.1) = entries.filterMap (Option.map (·.name)) := by
  simp only [batchOf, List.map_filterMap, Option.map_map, Function.comp_def]

theorem batchOf_find? (entries : List (Option Entry)) (name : String) :
    ((batchOf entries).find? (·.1 == name)).map (·.2) = entryNamed? entries name := by
  have : batchOf entries = (entries.filterMap id).map fun e => (e.name, e) := by
    rw [List.map_filterMap]
    rfl
  rw [this, List.find?_map, Option.map_map, entryNamed?]
  exact Option.map_id'

theorem stampRows_none {rows : List (Option Row)} (h : rows.all (·.isNone) = true)
    (owner : ModuleId) (next : Nat) :
    stampRows owner next rows = (rows.map fun _ => none, next) := by
  induction rows with
  | nil => rfl
  | cons row rows ih =>
    obtain ⟨hrow, h⟩ := Bool.and_eq_true_iff.1 h
    cases Option.isNone_iff_eq_none.1 hrow
    simp only [stampRows, ih h, List.map_cons]

/-- Writing no row changes nothing. -/
theorem writeRows_none (s : Space) {rows : List (Option Row)} (h : rows.all (·.isNone) = true)
    (owner : ModuleId) : s.writeRows owner rows = (rows.map fun _ => none, s) := by
  have hbatch : batchOf (rows.map fun _ => none) = [] := by simp [batchOf]
  have hmodify : (s.modifyMethods owner (·.insertMany [])) = s := by
    show { s with modules := s.modules.modify owner.index id } = s
    rw [List.modify_id]
  simp only [Space.writeRows, stampRows_none h]
  show (_, Space.modifyMethods s owner (·.insertMany (batchOf (rows.map fun _ => none)))) = _
  rw [hbatch, hmodify]

/-- A write binds the names of its rows in one table, and nothing else. The table must be there
unless there is nothing to write. -/
theorem lookup?_writeRows {rows : List (Option Row)}
    (hreg : rows.all (·.isNone) = true ∨ (s.module? owner).isSome = true)
    (hnd : (rowNames rows).Nodup) (id : ModuleId) (name : String) :
    (s.writeRows owner rows).2.lookup? id name =
      (if id = owner then entryNamed? (s.writeRows owner rows).1 name else none).or
        (s.lookup? id name) := by
  rcases hreg with hnone | hreg
  · have : entryNamed? (rows.map fun _ => none) name = none :=
      entryNamed?_eq_none (by simp) name
    rw [writeRows_none s hnone, this, ite_self, Option.none_or]
  obtain ⟨m, hm⟩ := Option.isSome_iff_exists.1 hreg
  rw [← stampRows_names owner s.next, ← batchOf_names] at hnd
  show (Space.modifyMethods _ owner
    (·.insertMany (batchOf (stampRows owner s.next rows).1))).lookup? id name = _
  rw [Space.lookup?_modifyMethods]
  by_cases hid : owner = id
  · subst hid
    rw [if_pos rfl, if_pos rfl]
    show (s.module? owner).bind _ = Option.or _ ((s.module? owner).bind _)
    rw [hm, Option.bind_some, Option.bind_some, NameMap.find?_insertMany_of_nodup _ hnd,
      batchOf_find?]
    rfl
  · rw [if_neg hid, if_neg (Ne.symm hid)]
    rfl

theorem outline?_writeRows (s : Space) (owner : ModuleId) (rows : List (Option Row))
    (id : ModuleId) : (s.writeRows owner rows).2.outline? id = s.outline? id :=
  Space.outline?_modifyMethods _ _ _ _

theorem settings_writeRows (s : Space) (owner : ModuleId) (rows : List (Option Row)) :
    (s.writeRows owner rows).2.settings = s.settings := rfl

/-! ## The rows on one side of planned methods -/

/-- Rows go under the names of their methods, and no name is planned twice. -/
structure WellNamed (methods : List PlannedMethod) : Prop where
  onModule : ∀ p ∈ methods, ∀ r, p.onModule = some r → r.name = p.name
  onSingleton : ∀ p ∈ methods, ∀ r, p.onSingleton = some r → r.name = p.name
  distinct : (methods.map (·.name)).Nodup

section Side

variable {side : PlannedMethod → Option Row} {methods : List PlannedMethod}
  {entries : List (Option Entry)}

/-- The names on one side are some of the planned names, in the same order. -/
theorem rowNames_sublist (hside : ∀ p ∈ methods, ∀ r, side p = some r → r.name = p.name) :
    (rowNames (methods.map side)).Sublist (methods.map (·.name)) := by
  induction methods with
  | nil => exact List.Sublist.slnil
  | cons p methods ih =>
    have ih := ih fun q hq => hside q (List.mem_cons_of_mem _ hq)
    simp only [rowNames, List.map_cons, List.filterMap_cons] at ih ⊢
    cases hp : side p with
    | none => exact ih.cons _
    | some r =>
      have := hside p List.mem_cons_self r hp
      simp only [Option.map_some, this]
      exact ih.cons_cons _

/-- The entries for the table of `owner` that come of the rows on one side. -/
def EntriesOf (owner : ModuleId) (side : PlannedMethod → Option Row)
    (methods : List PlannedMethod) (entries : List (Option Entry)) : Prop :=
  entries.map (Option.map Entry.toRow) = methods.map fun p => (side p).map (·.withOwner owner)

theorem entriesOf_writeRows (s : Space) (owner : ModuleId) (side : PlannedMethod → Option Row)
    (methods : List PlannedMethod) :
    EntriesOf owner side methods (s.writeRows owner (methods.map side)).1 := by
  have h := stampRows_rows owner s.next (methods.map side)
  rw [List.map_map] at h
  exact h

/-- Entries come from rows. -/
theorem EntriesOf.row_of_mem (h : EntriesOf owner side methods entries) {e : Entry}
    (he : some e ∈ entries) :
    ∃ p ∈ methods, ∃ r, side p = some r ∧ e.toRow = r.withOwner owner := by
  have hmem : some e.toRow ∈ entries.map (Option.map Entry.toRow) :=
    List.mem_map.2 ⟨some e, he, rfl⟩
  rw [h] at hmem
  obtain ⟨p, hp, hr⟩ := List.mem_map.1 hmem
  obtain ⟨r, hr, heq⟩ := Option.map_eq_some_iff.1 hr
  exact ⟨p, hp, r, hr, heq.symm⟩

/-- Rows become entries. -/
theorem EntriesOf.entry_of_mem (h : EntriesOf owner side methods entries) {p : PlannedMethod}
    (hp : p ∈ methods) {r : Row} (hr : side p = some r) :
    ∃ e, some e ∈ entries ∧ e.toRow = r.withOwner owner := by
  have hmem : some (r.withOwner owner) ∈ methods.map fun p => (side p).map (·.withOwner owner) :=
    List.mem_map.2 ⟨p, hp, by rw [hr]; rfl⟩
  rw [← h] at hmem
  obtain ⟨e?, he, heq⟩ := List.mem_map.1 hmem
  obtain ⟨e, rfl, hrow⟩ := Option.map_eq_some_iff.1 heq
  exact ⟨e, he, hrow⟩

theorem mem_of_entryNamed? {name : String} {e : Entry} (h : entryNamed? entries name = some e) :
    some e ∈ entries ∧ e.name = name := by
  obtain ⟨e?, he, rfl⟩ := List.mem_filterMap.1 (List.mem_of_find?_eq_some h)
  exact ⟨he, by simpa using List.find?_some h⟩

/-- Nothing is written under a name without a row. -/
theorem EntriesOf.entryNamed?_eq_none (h : EntriesOf owner side methods entries)
    (hside : ∀ p ∈ methods, ∀ r, side p = some r → r.name = p.name) {name : String}
    (hno : ∀ p ∈ methods, p.name = name → side p = none) : entryNamed? entries name = none := by
  cases hn : entryNamed? entries name with
  | none => rfl
  | some e =>
    obtain ⟨he, rfl⟩ := mem_of_entryNamed? hn
    obtain ⟨p, hp, r, hr, heq⟩ := h.row_of_mem he
    have hname : p.name = e.name := by
      rw [← hside p hp r hr, heq, r.name_withOwner]
    rw [hno p hp hname] at hr
    cases hr

/-- Under the name of a method with a row, its entry is written. -/
theorem EntriesOf.entryNamed?_eq_some (h : EntriesOf owner side methods entries)
    (hside : ∀ p ∈ methods, ∀ r, side p = some r → r.name = p.name)
    (hnd : (methods.map (·.name)).Nodup) {p : PlannedMethod} (hp : p ∈ methods) {r : Row}
    (hr : side p = some r) :
    ∃ e, entryNamed? entries p.name = some e ∧ e.toRow = r.withOwner owner := by
  obtain ⟨e, he, heq⟩ := h.entry_of_mem hp hr
  have hname : e.name = p.name := by
    rw [← hside p hp r hr, ← r.name_withOwner owner, ← heq]
  have hsome : (entryNamed? entries p.name).isSome = true := by
    rw [entryNamed?, List.find?_isSome]
    exact ⟨e, List.mem_filterMap.2 ⟨some e, he, rfl⟩, by simpa using hname⟩
  obtain ⟨e', he'⟩ := Option.isSome_iff_exists.1 hsome
  obtain ⟨hmem, hname'⟩ := mem_of_entryNamed? he'
  obtain ⟨q, hq, r', hr', heq'⟩ := h.row_of_mem hmem
  have hqp : q.name = p.name := by
    rw [← hside q hq r' hr', ← r'.name_withOwner owner, ← heq', hname']
  cases List.inj_on_of_nodup_map hnd hq hp hqp
  rw [hr] at hr'
  cases hr'
  exact ⟨e', he', heq'⟩

end Side

/-! ## Both tables -/

namespace Space

variable {s' : Space} {singleton : ModuleId} {methods : List PlannedMethod}
  {own sing : List (Option Entry)}

/-- The space that rows are written into: with a singleton class if a row needs it. -/
def prepared (s : Space) (target : ModuleId) (methods : List PlannedMethod) : Space :=
  if methods.all (·.onSingleton.isNone) then s else (s.singletonOf target).2

/-- What installing methods makes of a space, when `singleton` is the singleton class that the
target has or would get. -/
structure Installed (s s' : Space) (target singleton : ModuleId) (methods : List PlannedMethod)
    (own sing : List (Option Entry)) : Prop where
  own_rows : EntriesOf target (·.onModule) methods own
  sing_rows : EntriesOf singleton (·.onSingleton) methods sing
  singletonOf : (s.singletonOf target).1 = some singleton
  ne : singleton ≠ target
  settings : s'.settings = s.settings
  outline : ∀ id, s'.outline? id = (s.prepared target methods).outline? id
  table : ∀ id name, s'.lookup? id name =
    (if id = target then entryNamed? own name
      else if id = singleton then entryNamed? sing name else none).or (s.lookup? id name)

/-- A registered module has or can get a singleton class, which is another module. -/
theorem Tower.singletonOf_isSome (h : s.Tower) (hreg : (s.module? target).isSome = true) :
    ∃ singleton, (s.singletonOf target).1 = some singleton ∧ singleton ≠ target ∧
      ((s.singletonOf target).2.module? singleton).isSome = true := by
  obtain ⟨hn, -⟩ | ⟨singleton, hc, hr⟩ | ⟨o, ho, -, hr⟩ := s.singletonOf_cases target
  · rw [← isSome_outline?, hn] at hreg
    cases hreg
  · rw [hr]
    exact ⟨singleton, rfl, h.singleton_ne hc, h.singleton_isSome hc⟩
  · rw [hr]
    refine ⟨s.nextId, rfl, (ne_nextId (by rw [ho]; rfl)).symm, ?_⟩
    show ((s.attach target o.name).module? s.nextId).isSome = true
    rw [← isSome_outline?, outline?_attach ho, if_pos rfl]
    rfl

theorem module?_isSome_singletonOf (hreg : (s.module? target).isSome = true) (id : ModuleId) :
    ((s.singletonOf id).2.module? target).isSome = true := by
  obtain ⟨-, hr⟩ | ⟨_, -, hr⟩ | ⟨o, ho, -, hr⟩ := s.singletonOf_cases id <;> rw [hr]
  · exact hreg
  · exact hreg
  · rw [← isSome_outline?] at hreg ⊢
    rw [outline?_attach ho, if_neg (ne_nextId hreg)]
    split
    · rfl
    · exact hreg

theorem settings_singletonOf (s : Space) (id : ModuleId) :
    (s.singletonOf id).2.settings = s.settings := by
  obtain ⟨-, hr⟩ | ⟨_, -, hr⟩ | ⟨o, -, -, hr⟩ := s.singletonOf_cases id <;> rw [hr]
  rfl

/-- Installing is a write into the table of the target and then one into that of its singleton
class. -/
theorem installPlan_eq (hreg : (s.module? target).isSome = true)
    (hs : (s.singletonOf target).1 = some singleton)
    (hsreg : ((s.singletonOf target).2.module? singleton).isSome = true) (hostType : String)
    (methods : List PlannedMethod) :
    let own := (s.prepared target methods).writeRows target (methods.map (·.onModule))
    let sing := own.2.writeRows singleton (methods.map (·.onSingleton))
    s.installPlan hostType target methods = (.ok (boundMethods methods own.1 sing.1), sing.2,
      installingEvents own.1 ++ installingEvents sing.1) := by
  obtain ⟨m, hm⟩ := Option.isSome_iff_exists.1 hreg
  intro own sing
  by_cases hall : (methods.map (·.onSingleton)).all (·.isNone) = true
  · have hprep : s.prepared target methods = s := by
      rw [prepared, if_pos (by rw [← hall, List.all_map]; rfl)]
    have hsing : sing = ((methods.map (·.onSingleton)).map fun _ => none, own.2) :=
      writeRows_none _ hall _
    have hno : installingEvents sing.1 = [] := by
      rw [hsing]
      simp [installingEvents]
    rw [hno, hsing, List.append_nil]
    simp only [own, hprep, installPlan, hm, hall, if_true]
  · have hprep : s.prepared target methods = (s.singletonOf target).2 := by
      rw [prepared, if_neg fun hn => hall (by rw [← hn, List.all_map]; rfl)]
    obtain ⟨m', hm'⟩ := Option.isSome_iff_exists.1 hsreg
    have hpair : s.singletonOf target = (some singleton, (s.singletonOf target).2) := by rw [← hs]
    simp only [sing, own, hprep, installPlan, hm, hall, Bool.false_eq_true, if_false]
    rw [hpair]
    simp only [hm']

/-- Installing into a registered module never fails. -/
theorem installPlan_ok (h : s.Tower) (hreg : (s.module? target).isSome = true)
    (hwell : WellNamed methods) (hostType : String) :
    ∃ singleton own sing s', s.installPlan hostType target methods =
        (.ok (boundMethods methods own sing), s', installingEvents own ++ installingEvents sing) ∧
      s.Installed s' target singleton methods own sing := by
  obtain ⟨singleton, hs, hne, hsreg⟩ := h.singletonOf_isSome hreg
  have hown : (rowNames (methods.map (·.onModule))).Nodup :=
    hwell.distinct.sublist (rowNames_sublist hwell.onModule)
  have hsing : (rowNames (methods.map (·.onSingleton))).Nodup :=
    hwell.distinct.sublist (rowNames_sublist hwell.onSingleton)
  have hpreg : ((s.prepared target methods).module? target).isSome = true := by
    rw [prepared]
    split
    · exact hreg
    · exact module?_isSome_singletonOf hreg target
  have hpsreg : (methods.map (·.onSingleton)).all (·.isNone) = true ∨
      (((s.prepared target methods).writeRows target (methods.map (·.onModule))).2.module?
        singleton).isSome = true := by
    rw [← isSome_outline?, outline?_writeRows, isSome_outline?, prepared, List.all_map]
    split
    · exact .inl ‹_›
    · exact .inr hsreg
  have hkeep : ∀ id name, (s.prepared target methods).lookup? id name = s.lookup? id name := by
    intro id name
    rw [prepared]
    split
    · rfl
    · exact lookup?_singletonOf s target id name
  refine ⟨singleton, _, _, _, installPlan_eq hreg hs hsreg hostType methods,
    entriesOf_writeRows .., entriesOf_writeRows .., hs, hne, ?_, fun id => ?_, fun id name => ?_⟩
  · rw [settings_writeRows, settings_writeRows, prepared]
    split
    · rfl
    · exact settings_singletonOf s target
  · rw [outline?_writeRows, outline?_writeRows]
  · rw [lookup?_writeRows hpsreg hsing, lookup?_writeRows (.inr hpreg) hown, hkeep]
    by_cases ht : id = target
    · subst ht
      rw [if_neg (Ne.symm hne), if_pos rfl, Option.none_or]
    · rw [if_neg ht, if_neg ht, Option.none_or]

namespace Installed

variable (h : s.Installed s' target singleton methods own sing)
include h

/-- If a row needs it, the target has its singleton class afterwards. -/
theorem attached (hneed : ∃ p ∈ methods, p.onSingleton.isSome = true) :
    s'.singletonClass? target = some singleton := by
  have hall : ¬methods.all (·.onSingleton.isNone) = true := by
    obtain ⟨p, hp, hsome⟩ := hneed
    intro hall
    have := List.all_eq_true.1 hall p hp
    rw [Option.isNone_iff_eq_none.1 this] at hsome
    cases hsome
  rw [singletonClass?, h.outline, prepared, if_neg hall]
  exact singletonClass?_singletonOf h.singletonOf

/-- No other singleton class becomes that of the target. -/
theorem singleton_eq {other : ModuleId} (ho : s'.singletonClass? target = some other) :
    other = singleton := by
  have hs := h.singletonOf
  rw [singletonClass?, h.outline, prepared] at ho
  split at ho
  · rw [singletonOf_of_singletonClass? ho] at hs
    exact Option.some.inj hs
  · have := singletonClass?_singletonOf hs
    rw [singletonClass?, ho] at this
    exact Option.some.inj this

end Installed

end Space

end MethodBinding
