import MethodBinding.Proofs.Binding.Effect
import MethodBinding.Proofs.Enforcement

/-!
# What a pass reports

The bound methods that a pass answers are a report on the two tables: there is one for each selected
name, in order, and its entries are those that the tables have now (`BoundMethod.Mirrors`).

Entries are told apart by their stamps. A pass stamps its entries one after the other, those for the
target first (`Tower.bind_stamped`), so no two places of the report have the same entry
(`place_unique`), and each entry that the pass installed is at exactly one place
(`bind_report_mirrors_tables`).
-/

namespace MethodBinding

variable {s s' : Space} {target singleton : ModuleId} {descriptors : List Descriptor}
  {selected : List Declaration} {methods : List PlannedMethod} {own sing : List (Option Entry)}
  {bound : List BoundMethod} {e e' : Entry} {place place' : Nat × TargetTable}

/-! ## Reports -/

/-- The entry of a bound method for one of the two tables. -/
def BoundMethod.entryIn? (b : BoundMethod) : TargetTable → Option Entry
  | .ofModule => b.onModule
  | .ofSingleton => b.onSingleton

/-- The entry at a place of a report: that of the method at this position, for one of the two
tables. -/
def entryAt? (bound : List BoundMethod) (place : Nat × TargetTable) : Option Entry :=
  bound[place.1]?.bind (·.entryIn? place.2)

/-- The entry is at this place of the report, and at no other place there is one with its stamp. -/
structure ReportedOnceAt (bound : List BoundMethod) (e : Entry) (place : Nat × TargetTable) :
    Prop where
  here : entryAt? bound place = some e
  only : ∀ place' e', entryAt? bound place' = some e' → e'.stamp = e.stamp → place' = place

/-- The bound method stands for the selected declaration, and its entries are those that the table
of the target and that of its singleton class have under its name. -/
structure BoundMethod.Mirrors (b : BoundMethod) (c : Declaration) (s : Space)
    (target : ModuleId) : Prop where
  name : b.name = c.name
  onModule_iff : b.onModule.isSome = true ↔ c.descriptor.OnModule
  onModule : ∀ e, b.onModule = some e → s.lookup? target c.name = some e
  onSingleton_iff : b.onSingleton.isSome = true ↔ c.descriptor.OnSingleton
  onSingleton : ∀ e, b.onSingleton = some e → ∃ singleton,
    s.singletonClass? target = some singleton ∧ s.lookup? singleton c.name = some e
  entry : b.entry?.isSome = true

/-! ## Stamps -/

/-- An entry was stamped before another one, if both are there. -/
def StampedBefore (e e' : Option Entry) : Prop :=
  ∀ a, e = some a → ∀ a', e' = some a' → a.stamp < a'.stamp

theorem stamp_of_mem_stampRows {owner : ModuleId} {next : Nat} {rows : List (Option Row)}
    (he : some e ∈ (stampRows owner next rows).1) :
    next ≤ e.stamp ∧ e.stamp < (stampRows owner next rows).2 := by
  induction rows generalizing next with
  | nil => cases he
  | cons row rows ih =>
    cases row with
    | none =>
      rcases List.mem_cons.1 he with heq | he
      · cases heq
      · exact ih he
    | some r =>
      rcases List.mem_cons.1 he with heq | he
      · cases heq
        exact ⟨Nat.le_refl next, le_stampRows owner (next + 1) rows⟩
      · obtain ⟨hge, hlt⟩ := ih he
        exact ⟨Nat.le_of_succ_le hge, hlt⟩

/-- Stamps go up along the rows of a batch. -/
theorem pairwise_stampRows (owner : ModuleId) (next : Nat) (rows : List (Option Row)) :
    (stampRows owner next rows).1.Pairwise StampedBefore := by
  induction rows generalizing next with
  | nil => exact .nil
  | cons row rows ih =>
    cases row with
    | none =>
      refine List.pairwise_cons.2 ⟨fun e' _ => ?_, ih next⟩
      rintro a ⟨⟩
    | some r =>
      refine List.pairwise_cons.2 ⟨fun e' he' => ?_, ih (next + 1)⟩
      rintro a ⟨⟩ a' rfl
      exact (stamp_of_mem_stampRows he').1

/-- The entries of a second batch are stamped after those of the first. -/
theorem pairwise_writeRows (s : Space) (owner owner' : ModuleId) (rows rows' : List (Option Row)) :
    ((s.writeRows owner rows).1 ++
      ((s.writeRows owner rows).2.writeRows owner' rows').1).Pairwise StampedBefore := by
  refine List.pairwise_append.2 ⟨pairwise_stampRows .., pairwise_stampRows .., ?_⟩
  rintro _ he _ he' a rfl a' rfl
  have hlt := (stamp_of_mem_stampRows he).2
  have hge := (stamp_of_mem_stampRows he').1
  exact Nat.lt_of_lt_of_le hlt hge

/-- Installing stamps entries one after the other, those for the target first. -/
theorem Space.Tower.installPlan_stamped (h : s.Tower) (hreg : (s.module? target).isSome = true)
    {hostType : String} {events : List Event}
    (hi : s.installPlan hostType target methods = (.ok bound, s', events)) :
    (bound.map (·.onModule) ++ bound.map (·.onSingleton)).Pairwise StampedBefore := by
  obtain ⟨singleton, hs, -, hsreg⟩ := h.singletonOf_isSome hreg
  have hown := (entriesOf_writeRows (s.prepared target methods) target (·.onModule)
    methods).length_eq
  have hsing := (entriesOf_writeRows ((s.prepared target methods).writeRows target
    (methods.map (·.onModule))).2 singleton (·.onSingleton) methods).length_eq
  rw [installPlan_eq hreg hs hsreg] at hi
  cases hi
  rw [map_onModule_boundMethods hown hsing, map_onSingleton_boundMethods hown hsing]
  exact pairwise_writeRows ..

theorem Space.Tower.bind_stamped (h : s.Tower) {hostType : String}
    (hb : (s.bind hostType descriptors target).result = .ok bound) :
    (bound.map (·.onModule) ++ bound.map (·.onSingleton)).Pairwise StampedBefore := by
  unfold Space.bind at hb
  obtain ⟨-, hp⟩ | ⟨_, -, -, hp⟩ | ⟨selected, hreg, -, hp⟩ :=
    s.plan_cases hostType descriptors target <;> rw [hp] at hb
  · cases hb
  · cases hb
  · simp only at hb
    split at hb
    · cases hb
    · next hi =>
      cases hb
      -- the adapters have used up numbers before, which have no part in the tower
      refine Space.Tower.installPlan_stamped ?_ ?_ hi
      · exact h.congr fun _ => rfl
      · exact hreg

/-- Stamps tell the positions of entries. -/
theorem eq_of_stamp_eq {entries : List (Option Entry)} (h : entries.Pairwise StampedBefore)
    {i j : Nat} (hi : entries[i]? = some (some e)) (hj : entries[j]? = some (some e'))
    (heq : e'.stamp = e.stamp) : j = i := by
  obtain ⟨hi, hei⟩ := List.getElem?_eq_some_iff.1 hi
  obtain ⟨hj, hej⟩ := List.getElem?_eq_some_iff.1 hj
  rw [List.pairwise_iff_getElem] at h
  rcases Nat.lt_trichotomy i j with hlt | rfl | hlt
  · have := h i j hi hj hlt e hei e' hej
    omega
  · rfl
  · have := h j i hj hi hlt e' hej e hei
    omega

/-! ## Places -/

/-- The position of a place, if the entries for the target come first. -/
def positionOf (count : Nat) : Nat × TargetTable → Nat
  | (i, .ofModule) => i
  | (i, .ofSingleton) => count + i

theorem lt_of_entryAt? (h : entryAt? bound place = some e) : place.1 < bound.length := by
  obtain ⟨b, hb, -⟩ := Option.bind_eq_some_iff.1 h
  exact (List.getElem?_eq_some_iff.1 hb).1

theorem getElem?_positionOf (h : entryAt? bound place = some e) :
    (bound.map (·.onModule) ++ bound.map (·.onSingleton))[positionOf bound.length place]? =
      some (some e) := by
  have hlt := lt_of_entryAt? h
  obtain ⟨i, table⟩ := place
  obtain ⟨b, hb, he⟩ := Option.bind_eq_some_iff.1 h
  cases table with
  | ofModule =>
    rw [positionOf, List.getElem?_append_left (by simpa using hlt), List.getElem?_map, hb]
    exact congrArg some he
  | ofSingleton =>
    rw [positionOf, List.getElem?_append_right (by simp), List.length_map,
      Nat.add_sub_cancel_left, List.getElem?_map, hb]
    exact congrArg some he

/-- In a report whose entries are stamped in order, each has one place. -/
theorem place_unique
    (hstamped : (bound.map (·.onModule) ++ bound.map (·.onSingleton)).Pairwise StampedBefore)
    (h : entryAt? bound place = some e) (h' : entryAt? bound place' = some e')
    (heq : e'.stamp = e.stamp) : place' = place := by
  have hposition :=
    eq_of_stamp_eq hstamped (getElem?_positionOf h) (getElem?_positionOf h') heq
  have hlt := lt_of_entryAt? h
  have hlt' := lt_of_entryAt? h'
  obtain ⟨i, table⟩ := place
  obtain ⟨i', table'⟩ := place'
  -- the positions of the two tables do not overlap
  cases table with
  | ofModule =>
    cases table' with
    | ofModule => exact congrArg (·, TargetTable.ofModule) hposition
    | ofSingleton =>
      simp only [positionOf] at hposition hlt
      omega
  | ofSingleton =>
    cases table' with
    | ofModule =>
      simp only [positionOf] at hposition hlt'
      omega
    | ofSingleton => exact congrArg (·, TargetTable.ofSingleton) (Nat.add_left_cancel hposition)

theorem exists_place_of_mem (table : TargetTable) {b : BoundMethod} (hb : b ∈ bound)
    (he : b.entryIn? table = some e) : ∃ place, entryAt? bound place = some e := by
  obtain ⟨i, hi⟩ := List.mem_iff_getElem?.1 hb
  refine ⟨(i, table), ?_⟩
  rw [entryAt?, hi]
  exact he

/-! ## The tables -/

theorem Descriptor.onModule_or_onSingleton (d : Descriptor) : d.OnModule ∨ d.OnSingleton := by
  cases hmeta : d.metaScope with
  | false => exact .inl hmeta
  | true => exact .inr (.inl hmeta)

theorem PlansRow.isSome_iff {side : PlannedMethod → Option Row} {On : Descriptor → Prop}
    {Shown : Settings → String → DeclaredVisibility → Visibility → Prop}
    (hside : PlansRow side On Shown) {settings : Settings} {identity : Nat} {c : Declaration}
    {entry : Option Entry} {f : Entry → Row} {g : Row → Row}
    (h : entry.map f = (side (.ofDeclaration settings target identity c)).map g) :
    entry.isSome = true ↔ On c.descriptor := by
  have hsome := congrArg Option.isSome h
  rw [Option.isSome_map, Option.isSome_map] at hsome
  rw [hsome, Option.isSome_iff_exists]
  exact hside.exists_iff ..

namespace Space.Installed

section Stored

variable (h : s.Installed s' target singleton methods own sing) (hwell : WellNamed methods)
  {b : BoundMethod} (hb : b ∈ boundMethods methods own sing)
include h hwell hb

theorem find?_of_mem :
    (boundMethods methods own sing).find? (·.name == b.name) = some b := by
  have hnames := map_name_boundMethods h.own_rows.length_eq h.sing_rows.length_eq
  have hnd := hwell.distinct
  rw [← hnames] at hnd
  exact (find?_eq_some_iff_of_nodup hnd).2 ⟨hb, rfl⟩

theorem stored_onModule (he : b.onModule = some e) : s'.lookup? target b.name = some e := by
  have hentry := h.find?_onModule hwell b.name
  rw [h.find?_of_mem hwell hb, Option.bind_some, he] at hentry
  rw [h.table, if_pos rfl, ← hentry, Option.some_or]

theorem stored_onSingleton (he : b.onSingleton = some e) :
    s'.singletonClass? target = some singleton ∧ s'.lookup? singleton b.name = some e := by
  have hentry := h.find?_onSingleton hwell b.name
  rw [h.find?_of_mem hwell hb, Option.bind_some, he] at hentry
  have hmem := (mem_boundMethods hb).2
  rw [he] at hmem
  obtain ⟨p, hp, r, hr, -⟩ := h.sing_rows.row_of_mem hmem
  -- the entry was planned for the singleton class, so the target has got one
  refine ⟨h.attached ⟨p, hp, Option.isSome_iff_exists.2 ⟨r, hr⟩⟩, ?_⟩
  rw [h.table, if_neg h.ne, if_pos rfl, ← hentry, Option.some_or]

end Stored

/-- What was bound mirrors what was selected, in order. -/
theorem mirrors (h : s.Installed s' target singleton (s.planned target selected) own sing)
    (hnd : (selected.map (·.name)).Nodup) :
    List.Forall₂ (fun b c => b.Mirrors c s' target)
      (boundMethods (s.planned target selected) own sing) selected := by
  have hwell := wellNamed_planned s target hnd
  have hbare := map_bare_boundMethods h.own_rows h.sing_rows
  have hpairs : List.Forall₂ Eq _ _ := List.forall₂_eq_eq_eq ▸ hbare
  rw [List.forall₂_map_left_iff, List.forall₂_map_right_iff] at hpairs
  -- tables are read by name, which finds only methods of the list
  have hmem := (List.forall₂_and_left _ _).2 ⟨fun b hb => hb, hpairs⟩
  refine (List.forall₂_map_right_iff.1 hmem).imp ?_
  rintro b c ⟨hb, hbare⟩
  obtain ⟨hname, hmodule, hsingleton⟩ := PlannedMethod.mk.inj hbare
  have hname : b.name = c.name := hname
  have hon := plansRow_onModule.isSome_iff hmodule
  have hon' := plansRow_onSingleton.isSome_iff hsingleton
  refine ⟨hname, hon, fun e he => ?_, hon', fun e he => ?_, ?_⟩
  · rw [← hname]
    exact h.stored_onModule hwell hb he
  · rw [← hname]
    exact ⟨singleton, h.stored_onSingleton hwell hb he⟩
  · rw [BoundMethod.entry?, Option.isSome_or, Bool.or_eq_true, hon, hon']
    exact c.descriptor.onModule_or_onSingleton

theorem exists_place_of_installs {outcome : PassOutcome}
    (h : s.Installed outcome.space target singleton methods own sing)
    (hresult : outcome.result = .ok (boundMethods methods own sing)) (he : outcome.Installs s e) :
    ∃ place, entryAt? (boundMethods methods own sing) place = some e := by
  have hown := h.own_rows.length_eq
  have hsing := h.sing_rows.length_eq
  rcases he with ⟨bound, hb, b, hmem, hat⟩ | ⟨id, name, hnew, hold⟩
  · cases hresult.symm.trans hb
    rcases hat with hat | hat
    · exact exists_place_of_mem .ofModule hmem hat
    · exact exists_place_of_mem .ofSingleton hmem hat
  · rcases h.mem_of_lookup? hnew hold with hmem | hmem
    · rw [← map_onModule_boundMethods hown hsing] at hmem
      obtain ⟨b, hb, hat⟩ := List.mem_map.1 hmem
      exact exists_place_of_mem .ofModule hb hat
    · rw [← map_onSingleton_boundMethods hown hsing] at hmem
      obtain ⟨b, hb, hat⟩ := List.mem_map.1 hmem
      exact exists_place_of_mem .ofSingleton hb hat

end Space.Installed

/-- **The report of a pass mirrors the tables.** In a reachable space, what a pass answers when it
succeeds stands for the selected declarations, in order, and shows for each the entries that the two
tables now have. Each entry that was installed is at exactly one place in it. -/
theorem bind_report_mirrors_tables (hs : s.Reachable) {hostType : String}
    (hb : (s.bind hostType descriptors target).result = .ok bound) :
    ∃ selected, (select descriptors s.settings.active).result = .ok selected ∧
      (∀ c ∈ selected, descriptors[c.index]? = some c.descriptor) ∧
      List.Forall₂ (fun b c => b.Mirrors c (s.bind hostType descriptors target).space target)
        bound selected ∧
      ∀ e, (s.bind hostType descriptors target).Installs s e →
        ∃ place, ReportedOnceAt bound e place := by
  have h := hs.tower
  have hstamped := h.bind_stamped hb
  obtain ⟨selected, singleton, own, sing, hsel, hinst, hbound⟩ := Space.bind_ok h hb
  refine ⟨selected, hsel, fun c hc => ((mem_selected hsel).1 hc).1.1, ?_, fun e he => ?_⟩
  · rw [hbound]
    exact hinst.mirrors (selected_nodup hsel)
  · rw [hbound] at hb hstamped ⊢
    obtain ⟨place, hplace⟩ := hinst.exists_place_of_installs hb he
    exact ⟨place, hplace, fun _ _ hother heq => place_unique hstamped hplace hother heq⟩

/-- The module function is reported with one entry for each table, the hook with one. -/
theorem bind_reports_setup_and_sqrt :
    ∃ bound e, (smallSpace.bind "Math" [setupDescriptor, sqrtDescriptor] ⟨0⟩).result = .ok bound ∧
      List.Forall₂ (fun b c => b.Mirrors c
          (smallSpace.bind "Math" [setupDescriptor, sqrtDescriptor] ⟨0⟩).space ⟨0⟩) bound
        [⟨"initialize", 0, setupDescriptor⟩, ⟨"sqrt", 1, sqrtDescriptor⟩,
          ⟨"root", 1, sqrtDescriptor⟩] ∧
      (smallSpace.bind "Math" [setupDescriptor, sqrtDescriptor] ⟨0⟩).space.lookup? ⟨1⟩ "root" =
        some e ∧
      ReportedOnceAt bound e (2, .ofSingleton) := by
  obtain ⟨bound, hb, hplaces⟩ : ∃ bound,
      (smallSpace.bind "Math" [setupDescriptor, sqrtDescriptor] ⟨0⟩).result = .ok bound ∧
      ∀ e, (smallSpace.bind "Math" [setupDescriptor, sqrtDescriptor] ⟨0⟩).space.lookup? ⟨1⟩ "root" =
        some e → entryAt? bound (2, .ofSingleton) = some e := ⟨_, rfl, fun _ he => he⟩
  obtain ⟨selected, hsel, -, hmirrors, hplaced⟩ :=
    bind_report_mirrors_tables smallSpace_reachable hb
  have hselected : (select [setupDescriptor, sqrtDescriptor] smallSpace.settings.active).result =
      .ok [⟨"initialize", 0, setupDescriptor⟩, ⟨"sqrt", 1, sqrtDescriptor⟩,
        ⟨"root", 1, sqrtDescriptor⟩] := rfl
  cases hsel.symm.trans hselected
  have hold : smallSpace.lookup? ⟨1⟩ "root" = none := rfl
  refine ⟨bound, _, hb, hmirrors, rfl, ?_⟩
  obtain ⟨place, honce⟩ := hplaced _ (.inr ⟨⟨1⟩, "root", rfl, by rw [hold]; nofun⟩)
  cases honce.only _ _ (hplaces _ rfl) rfl
  exact honce

end MethodBinding
