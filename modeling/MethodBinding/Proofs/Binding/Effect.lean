import MethodBinding.Proofs.Binding.Alike
import MethodBinding.Proofs.Binding.Written
import MethodBinding.Proofs.Selection.Picks

/-!
# The effect of a pass

Without identities, what a pass does to a space is given by the list of the methods that it binds
(`Space.Passed`): their rows lie over the old rows of two tables, and there is a singleton class if
one of them needs it. The methods follow from what was picked (`Tower.bind_passed`).

The order of the list does not matter (`Passed.alike_of_perm`), two passes into one target are as
one with both lists, if no name is in both (`Passed.append`), and a second pass with the same
methods leaves an alike space (`Passed.again`).
-/

namespace MethodBinding

variable {s s' s'' : Space} {target singleton singleton' : ModuleId}
  {methods methods' : List PlannedMethod} {selected : List Declaration}

/-! ## Methods without identities -/

/-- The row of a descriptor under a name in the table of `owner`, without identities. -/
def Descriptor.bareRow (d : Descriptor) (name : String) (owner : ModuleId)
    (visibility : Visibility) : Row where
  name := name
  owner := owner
  visibility := visibility
  arity := d.policy.arity
  check := d.policy.check
  adapter := ⟨0, d.host, d.policy⟩

/-- A name of a descriptor as it is bound, without identities. -/
def Descriptor.bareMethod (settings : Settings) (target singleton : ModuleId) (name : String)
    (d : Descriptor) : PlannedMethod where
  name := name
  onModule := (d.placement settings name).onModule.map (d.bareRow name target)
  onSingleton := (d.placement settings name).onSingleton.map (d.bareRow name singleton)

/-- What was picked, as it is bound. -/
def bareMethods (settings : Settings) (target singleton : ModuleId)
    (picked : List (String × Descriptor)) : List PlannedMethod :=
  picked.map fun p => p.2.bareMethod settings target singleton p.1

/-- The row for the table of a module. -/
def PlannedMethod.rowIn? (p : PlannedMethod) (target singleton id : ModuleId) : Option Row :=
  if id = target then p.onModule else if id = singleton then p.onSingleton else none

theorem bareMethods_append (settings : Settings) (target singleton : ModuleId)
    (first second : List (String × Descriptor)) :
    bareMethods settings target singleton (first ++ second) =
      bareMethods settings target singleton first ++
        bareMethods settings target singleton second :=
  List.map_append

theorem map_name_bareMethods (settings : Settings) (picked : List (String × Descriptor)) :
    (bareMethods settings target singleton picked).map (·.name) = picked.map (·.1) := by
  rw [bareMethods, List.map_map]
  rfl

theorem find?_eq_some_iff_of_nodup {α : Type} {f : α → String} {l : List α}
    (hnd : (l.map f).Nodup) {name : String} {a : α} :
    l.find? (fun b => f b == name) = some a ↔ a ∈ l ∧ f a = name := by
  refine ⟨fun h => ?_, ?_⟩
  · exact ⟨List.mem_of_find?_eq_some h, by simpa using List.find?_some h⟩
  · rintro ⟨ha, rfl⟩
    have hsome : (l.find? (fun b => f b == f a)).isSome = true := by
      rw [List.find?_isSome]
      exact ⟨a, ha, by simp⟩
    obtain ⟨b, hb⟩ := Option.isSome_iff_exists.1 hsome
    have hname : f b = f a := by simpa using List.find?_some hb
    rw [hb, List.inj_on_of_nodup_map hnd (List.mem_of_find?_eq_some hb) ha hname]

theorem find?_perm (hperm : methods.Perm methods') (hnd : (methods.map (·.name)).Nodup)
    (name : String) : methods.find? (·.name == name) = methods'.find? (·.name == name) := by
  have hnd' : (methods'.map (·.name)).Nodup := (hperm.map (·.name)).nodup_iff.1 hnd
  ext p
  rw [find?_eq_some_iff_of_nodup hnd, find?_eq_some_iff_of_nodup hnd', hperm.mem_iff]

/-- What was bound, from what was planned. -/
theorem map_bare_boundMethods {own sing : List (Option Entry)}
    (hown : EntriesOf target (·.onModule) methods own)
    (hsing : EntriesOf singleton (·.onSingleton) methods sing) :
    (boundMethods methods own sing).map BoundMethod.bare = methods.map fun p =>
      ⟨p.name, p.onModule.map fun r => (r.withOwner target).bare,
        p.onSingleton.map fun r => (r.withOwner singleton).bare⟩ := by
  have hrows := congrArg (List.map PlannedMethod.bare) (map_rows_boundMethods hown hsing)
  simp only [List.map_map, Function.comp_def, PlannedMethod.bare, PlannedMethod.owned,
    BoundMethod.rows, Option.map_map] at hrows
  exact hrows

namespace Space

/-! ## Passes -/

/-- What binding methods into `target` makes of a space, without identities. -/
structure Passed (s s' : Space) (target singleton : ModuleId) (methods : List PlannedMethod) :
    Prop where
  settings : s'.settings = s.settings
  singletonOf : (s.singletonOf target).1 = some singleton
  distinct : (methods.map (·.name)).Nodup
  outline : ∀ id, s'.outline? id = (s.prepared target methods).outline? id
  table : ∀ id name, s'.bareRow? id name =
    ((methods.find? (·.name == name)).bind (·.rowIn? target singleton id)).or (s.bareRow? id name)

/-- What was installed for the selected declarations is what was picked, without identities. -/
theorem Installed.map_bare {own sing : List (Option Entry)}
    (h : s.Installed s' target singleton (s.planned target selected) own sing) :
    (boundMethods (s.planned target selected) own sing).map BoundMethod.bare =
      bareMethods s.settings target singleton (picks selected) := by
  rw [map_bare_boundMethods h.own_rows h.sing_rows, bareMethods, picks]
  simp only [planned, Plan.ofSelected, List.map_map]
  refine List.map_congr_left fun c _ => ?_
  simp only [Function.comp_apply, PlannedMethod.ofDeclaration, Descriptor.bareMethod,
    Option.map_map]
  rfl

theorem prepared_planned (s : Space) (target singleton : ModuleId)
    (selected : List Declaration) :
    s.prepared target (s.planned target selected) =
      s.prepared target (bareMethods s.settings target singleton (picks selected)) := by
  have hall : (s.planned target selected).all (·.onSingleton.isNone) =
      (bareMethods s.settings target singleton (picks selected)).all (·.onSingleton.isNone) := by
    simp only [planned, Plan.ofSelected, bareMethods, picks, List.all_map, Function.comp_def,
      PlannedMethod.ofDeclaration, Descriptor.bareMethod, Option.isNone_map]
  rw [prepared, prepared, hall]

theorem Installed.passed {own sing : List (Option Entry)}
    (h : s.Installed s' target singleton (s.planned target selected) own sing)
    (hnd : (selected.map (·.name)).Nodup) :
    s.Passed s' target singleton (bareMethods s.settings target singleton (picks selected)) := by
  have hwell := wellNamed_planned s target hnd
  have hbare := h.map_bare
  have hown : ∀ name, (entryNamed? own name).map Entry.bare =
      ((bareMethods s.settings target singleton (picks selected)).find? (·.name == name)).bind
        (·.onModule) := by
    intro name
    rw [← h.find?_onModule hwell, ← hbare, List.find?_map, Option.map_bind, Option.bind_map]
    rfl
  have hsing : ∀ name, (entryNamed? sing name).map Entry.bare =
      ((bareMethods s.settings target singleton (picks selected)).find? (·.name == name)).bind
        (·.onSingleton) := by
    intro name
    rw [← h.find?_onSingleton hwell, ← hbare, List.find?_map, Option.map_bind, Option.bind_map]
    rfl
  refine ⟨h.settings, h.singletonOf, ?_, fun id => ?_, fun id name => ?_⟩
  · rw [map_name_bareMethods, map_fst_picks]
    exact hnd
  · rw [h.outline, prepared_planned s target singleton]
  · rw [bareRow?, h.table, Option.map_or, bareRow?]
    congr 1
    unfold PlannedMethod.rowIn?
    split
    · exact hown name
    split
    · exact hsing name
    · rw [Option.map_none, Option.bind_fun_none]

/-- A pass that succeeds has bound what was picked. -/
theorem Tower.bind_passed (h : s.Tower) {hostType : String} {descriptors : List Descriptor}
    {bound : List BoundMethod} (hb : (s.bind hostType descriptors target).result = .ok bound) :
    ∃ selected singleton, (select descriptors s.settings.active).result = .ok selected ∧
      s.Passed (s.bind hostType descriptors target).space target singleton
        (bareMethods s.settings target singleton (picks selected)) ∧
      bound.map BoundMethod.bare =
        bareMethods s.settings target singleton (picks selected) := by
  obtain ⟨selected, singleton, own, sing, hsel, hinst, rfl⟩ := bind_ok h hb
  exact ⟨selected, singleton, hsel, hinst.passed (selected_nodup hsel), hinst.map_bare⟩

theorem Tower.bind_of_select (h : s.Tower) (hreg : (s.module? target).isSome = true)
    {descriptors : List Descriptor}
    (hsel : (select descriptors s.settings.active).result = .ok selected) (hostType : String) :
    ∃ bound singleton, (s.bind hostType descriptors target).result = .ok bound ∧
      s.Passed (s.bind hostType descriptors target).space target singleton
        (bareMethods s.settings target singleton (picks selected)) ∧
      bound.map BoundMethod.bare =
        bareMethods s.settings target singleton (picks selected) := by
  obtain ⟨bound, hb⟩ : ∃ bound, (s.bind hostType descriptors target).result = .ok bound :=
    (bind_ok_iff h).2 ⟨hreg, selected, hsel⟩
  obtain ⟨selected', singleton, hsel', hpassed, hbare⟩ := h.bind_passed hb
  cases hsel.symm.trans hsel'
  exact ⟨bound, singleton, hb, hpassed, hbare⟩

namespace Passed

theorem singleton_unique (h : s.Passed s' target singleton methods)
    (h' : s.Passed s'' target singleton' methods') : singleton' = singleton :=
  Option.some.inj (h'.singletonOf.symm.trans h.singletonOf)

theorem alike_of_perm (h : s.Passed s' target singleton methods)
    (h' : s.Passed s'' target singleton' methods') (hperm : methods.Perm methods') :
    s'.Alike s'' := by
  cases h.singleton_unique h'
  refine alike_of_bareRow? (h.settings.trans h'.settings.symm) (fun id => ?_) fun id name => ?_
  · rw [h.outline, h'.outline, prepared, prepared, hperm.all_eq]
  · rw [h.table, h'.table, find?_perm hperm h.distinct]

/-- The space that rows were written into has the singleton class that was answered, or would. -/
theorem singletonOf_prepared (h : s.Passed s' target singleton methods) :
    ((s.prepared target methods).singletonOf target).1 = some singleton := by
  rw [prepared]
  split
  · exact h.singletonOf
  · rw [singletonOf_again]
    exact h.singletonOf

theorem singleton_next (h : s.Passed s' target singleton methods)
    (h' : s'.Passed s'' target singleton' methods') : singleton' = singleton := by
  -- the second pass asks a space with the outlines that the first one has left
  have hsame := (singletonOf_congr h.outline target).1
  rw [h'.singletonOf, h.singletonOf_prepared] at hsame
  exact Option.some.inj hsame

/-- Two passes into one target ask for its singleton class if one of them does. -/
theorem outline_append (h : s.Passed s' target singleton methods)
    (h' : s'.Passed s'' target singleton' methods') (id : ModuleId) :
    s''.outline? id = (s.prepared target (methods ++ methods')).outline? id := by
  have hnext := (singletonOf_congr h.outline target).2
  rw [h'.outline, prepared, prepared, List.all_append]
  cases hall' : methods'.all (·.onSingleton.isNone) with
  | true =>
    rw [if_pos rfl, h.outline, prepared, Bool.and_true]
  | false =>
    rw [Bool.and_false, if_neg Bool.false_ne_true, if_neg Bool.false_ne_true, hnext, prepared]
    split
    · rfl
    · rw [singletonOf_again]

/-- Two passes are as one with the methods of both, if no name is in both. -/
theorem append (h : s.Passed s' target singleton methods)
    (h' : s'.Passed s'' target singleton' methods')
    (hnd : ((methods ++ methods').map (·.name)).Nodup) :
    s.Passed s'' target singleton (methods ++ methods') := by
  cases h.singleton_next h'
  refine ⟨h'.settings.trans h.settings, h.singletonOf, hnd, h.outline_append h',
    fun id name => ?_⟩
  rw [h'.table, h.table, List.find?_append]
  cases hfind : methods.find? (·.name == name) with
  | none => rw [Option.bind_none, Option.none_or, Option.none_or]
  | some p =>
    -- the name is in the first list, so it is not in the second
    obtain ⟨hp, hname⟩ := (find?_eq_some_iff_of_nodup h.distinct).1 hfind
    have hnone : methods'.find? (·.name == name) = none := by
      rw [List.find?_eq_none]
      intro q hq heq
      rw [List.map_append, List.nodup_append] at hnd
      refine hnd.2.2 _ (List.mem_map_of_mem hp) _ (List.mem_map_of_mem hq) ?_
      rw [hname, eq_comm]
      simpa using heq
    rw [hnone, Option.bind_none, Option.none_or, Option.some_or]

/-- Binding the same methods once more puts them over themselves. -/
theorem again (h : s.Passed s' target singleton methods)
    (h' : s'.Passed s'' target singleton' methods) : s'.Alike s'' := by
  cases h.singleton_next h'
  refine alike_of_bareRow? h'.settings.symm (fun id => ?_) fun id name => ?_
  · rw [h.outline_append h', h.outline, prepared, prepared, List.all_append, Bool.and_self]
  · rw [h'.table, h.table, ← Option.or_assoc, Option.or_self]

end Passed

/-- Passes that pick the same, up to order, bind alike methods, up to order, and leave alike
spaces. -/
theorem Tower.bind_alike_of_picks (h : s.Tower) (hreg : (s.module? target).isSome = true)
    {descriptors descriptors' : List Descriptor} {selected' : List Declaration}
    (hsel : (select descriptors s.settings.active).result = .ok selected)
    (hsel' : (select descriptors' s.settings.active).result = .ok selected')
    (hpicks : (picks selected).Perm (picks selected')) (hostType : String) :
    ∃ bound bound', (s.bind hostType descriptors target).result = .ok bound ∧
      (s.bind hostType descriptors' target).result = .ok bound' ∧
      (s.bind hostType descriptors target).space.Alike
        (s.bind hostType descriptors' target).space ∧
      BoundMethod.Agree bound bound' := by
  obtain ⟨bound, singleton, hb, hpassed, hbare⟩ := h.bind_of_select hreg hsel hostType
  obtain ⟨bound', singleton', hb', hpassed', hbare'⟩ := h.bind_of_select hreg hsel' hostType
  cases hpassed.singleton_unique hpassed'
  have hmethods : (bareMethods s.settings target singleton (picks selected)).Perm
      (bareMethods s.settings target singleton (picks selected')) := hpicks.map _
  refine ⟨bound, bound', hb, hb', hpassed.alike_of_perm hpassed' hmethods,
    BoundMethod.agree_of_bare ?_⟩
  rw [hbare, hbare']
  exact hmethods

end Space

end MethodBinding
