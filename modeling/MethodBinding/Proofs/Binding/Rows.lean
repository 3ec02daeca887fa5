import MethodBinding.Proofs.Run

/-!
# The rows of a pass

Said about the descriptors alone: which tables a name of a descriptor goes into
(`Descriptor.OnModule`, `Descriptor.OnSingleton`), what its row has there (`Descriptor.IsRow`), and
the visibility it shows (`Shows`, `ShowsOnSingleton`).

`Space.Rewritten` says that two spaces differ in the rows of the selected declarations and in no
other entry of any table. A pass that succeeds leaves such a space (`bind_installs_selected`).
-/

namespace MethodBinding

variable {s s' : Space} {target owner : ModuleId} {selected : List Declaration}

/-! ## What a row is to be -/

/-- The names of the descriptor go into the table of the target. -/
def Descriptor.OnModule (d : Descriptor) : Prop := d.metaScope = false

/-- The names of the descriptor go into the table of the singleton class. -/
def Descriptor.OnSingleton (d : Descriptor) : Prop :=
  d.metaScope = true ∨ d.moduleScope = true ∨ d.visibility = .moduleFunction

/-- The visibility of a name in the table of the target, by what is declared. -/
inductive Shows (settings : Settings) (name : String) : DeclaredVisibility → Visibility → Prop where
  | pub : Shows settings name .pub .pub
  | priv : Shows settings name .priv .priv
  | prot : Shows settings name .prot .prot
  | moduleFunction : Shows settings name .moduleFunction .priv
  | hook (h : name ∈ settings.hooks) : Shows settings name .unset .priv
  | plain (h : name ∉ settings.hooks) : Shows settings name .unset .pub

/-- The visibility of a name in the table of the singleton class: a module function has a public
copy there. -/
inductive ShowsOnSingleton (settings : Settings) (name : String) :
    DeclaredVisibility → Visibility → Prop where
  | copy : ShowsOnSingleton settings name .moduleFunction .pub
  | same {declared : DeclaredVisibility} {visibility : Visibility}
      (hne : declared ≠ .moduleFunction) (h : Shows settings name declared visibility) :
      ShowsOnSingleton settings name declared visibility

/-- What a row of the descriptor has under a name in the table of `owner`, whatever its
visibility. -/
structure Descriptor.IsRow (d : Descriptor) (name : String) (owner : ModuleId) (r : Row) :
    Prop where
  name : r.name = name
  owner : r.owner = owner
  arity : r.arity = (ArityPolicy.resolve d.required d.optional d.rest d.checking).arity
  check : r.check = (ArityPolicy.resolve d.required d.optional d.rest d.checking).check
  host : r.adapter.host = d.host
  policy : r.adapter.policy = .resolve d.required d.optional d.rest d.checking

theorem shows_effectiveVisibility (settings : Settings) (declared : DeclaredVisibility)
    (name : String) :
    Shows settings name declared (effectiveVisibility settings declared name) := by
  cases declared with
  | pub => exact .pub
  | priv => exact .priv
  | prot => exact .prot
  | moduleFunction => exact .moduleFunction
  | unset =>
    simp only [effectiveVisibility, Settings.isHook, List.contains_iff_mem]
    split
    · exact .hook ‹_›
    · exact .plain ‹_›

theorem Descriptor.isModuleMethod_iff {d : Descriptor} :
    d.isModuleMethod = true ↔ d.moduleScope = true ∨ d.visibility = .moduleFunction := by
  simp [isModuleMethod]

/-! ## What is planned -/

/-- One of the two rows of planned methods: which descriptors have it, and which visibility it
shows. -/
structure PlansRow (side : PlannedMethod → Option Row) (On : Descriptor → Prop)
    (Shown : Settings → String → DeclaredVisibility → Visibility → Prop) : Prop where
  exists_iff : ∀ settings target identity c,
    (∃ r, side (.ofDeclaration settings target identity c) = some r) ↔ On c.descriptor
  isRow : ∀ settings target identity c r owner,
    side (.ofDeclaration settings target identity c) = some r →
    c.descriptor.IsRow c.name owner (r.withOwner owner) ∧
      Shown settings c.name c.descriptor.visibility r.visibility

theorem isRow_planned (c : Declaration) (target owner : ModuleId) (identity : Nat)
    (visibility : Visibility) :
    c.descriptor.IsRow c.name owner
      ((((c.descriptor.baseRow target identity).withName c.name).withVisibility
        visibility).withOwner owner) :=
  ⟨rfl, rfl, rfl, rfl, rfl, rfl⟩

theorem plansRow_onModule : PlansRow (·.onModule) Descriptor.OnModule Shows where
  exists_iff settings target identity c := by
    simp only [PlannedMethod.ofDeclaration, Descriptor.placement, Descriptor.OnModule]
    cases c.descriptor.metaScope with
    | true => simp
    | false => by_cases hm : c.descriptor.isModuleMethod = true <;> simp [hm]
  isRow settings target identity c r owner h := by
    obtain ⟨v, hv, rfl⟩ := Option.map_eq_some_iff.1 h
    refine ⟨isRow_planned .., ?_⟩
    show Shows settings c.name c.descriptor.visibility v
    have : v = effectiveVisibility settings c.descriptor.visibility c.name := by
      unfold Descriptor.placement at hv
      split at hv
      · cases hv
      split at hv <;> exact (Option.some.inj hv).symm
    rw [this]
    exact shows_effectiveVisibility ..

theorem plansRow_onSingleton :
    PlansRow (·.onSingleton) Descriptor.OnSingleton ShowsOnSingleton where
  exists_iff settings target identity c := by
    simp only [PlannedMethod.ofDeclaration, Descriptor.placement, Descriptor.OnSingleton,
      ← Descriptor.isModuleMethod_iff]
    cases c.descriptor.metaScope with
    | true => simp
    | false => by_cases hm : c.descriptor.isModuleMethod = true <;> simp [hm]
  isRow settings target identity c r owner h := by
    obtain ⟨v, hv, rfl⟩ := Option.map_eq_some_iff.1 h
    refine ⟨isRow_planned .., ?_⟩
    show ShowsOnSingleton settings c.name c.descriptor.visibility v
    have heff := shows_effectiveVisibility settings c.descriptor.visibility c.name
    unfold Descriptor.placement at hv
    split at hv
    · next hmeta =>
      cases hv
      exact .same (c.descriptor.scopes hmeta).2 heff
    split at hv
    · split at hv
      · next hmf =>
        cases hv
        rw [hmf]
        exact .copy
      · next hmf =>
        cases hv
        exact .same hmf heff
    · cases hv

/-! ## What is written -/

theorem mem_planned {p : PlannedMethod} (hp : p ∈ s.planned target selected) :
    ∃ c ∈ selected, ∃ identity, p = .ofDeclaration s.settings target identity c := by
  obtain ⟨c, hc, rfl⟩ := List.mem_map.1 hp
  exact ⟨c, hc, _, rfl⟩

theorem planned_of_mem {c : Declaration} (hc : c ∈ selected) (s : Space) (target : ModuleId) :
    ∃ identity, PlannedMethod.ofDeclaration s.settings target identity c ∈
      s.planned target selected :=
  ⟨_, List.mem_map.2 ⟨c, hc, rfl⟩⟩

namespace PlansRow

variable {side : PlannedMethod → Option Row} {On : Descriptor → Prop}
  {Shown : Settings → String → DeclaredVisibility → Visibility → Prop}
  {entries : List (Option Entry)} {name : String}

theorem named (hside : PlansRow side On Shown) :
    ∀ p ∈ s.planned target selected, ∀ r, side p = some r → r.name = p.name := by
  intro p hp r hr
  obtain ⟨c, -, identity, rfl⟩ := mem_planned hp
  exact (hside.isRow _ _ _ c r target hr).1.name

/-- Every entry that was written is a row of a selected descriptor. -/
theorem isRow_of_mem (hside : PlansRow side On Shown)
    (h : EntriesOf owner side (s.planned target selected) entries) {e : Entry}
    (he : some e ∈ entries) : ∃ c ∈ selected, c.descriptor.IsRow c.name owner e.toRow := by
  obtain ⟨p, hp, r, hr, hrow⟩ := h.row_of_mem he
  obtain ⟨c, hc, identity, rfl⟩ := mem_planned hp
  rw [hrow]
  exact ⟨c, hc, (hside.isRow _ _ _ c r owner hr).1⟩

theorem written (hside : PlansRow side On Shown) (hnd : (selected.map (·.name)).Nodup)
    (h : EntriesOf owner side (s.planned target selected) entries) {c : Declaration}
    (hc : c ∈ selected) (hon : On c.descriptor) :
    ∃ e, entryNamed? entries c.name = some e ∧ c.descriptor.IsRow c.name owner e.toRow ∧
      Shown s.settings c.name c.descriptor.visibility e.visibility := by
  obtain ⟨identity, hp⟩ := planned_of_mem hc s target
  obtain ⟨r, hr⟩ := (hside.exists_iff s.settings target identity c).2 hon
  obtain ⟨e, he, hrow⟩ :=
    h.entryNamed?_eq_some hside.named (wellNamed_planned s target hnd).distinct hp hr
  refine ⟨e, he, ?_⟩
  rw [hrow]
  exact hside.isRow _ _ _ c r owner hr

theorem unwritten (hside : PlansRow side On Shown)
    (h : EntriesOf owner side (s.planned target selected) entries)
    (hno : ∀ c ∈ selected, c.name = name → ¬On c.descriptor) :
    entryNamed? entries name = none := by
  refine h.entryNamed?_eq_none hside.named fun p hp hname => ?_
  obtain ⟨c, hc, identity, rfl⟩ := mem_planned hp
  refine Option.eq_none_iff_forall_ne_some.2 fun r hr => ?_
  exact hno c hc hname ((hside.exists_iff ..).1 ⟨r, hr⟩)

end PlansRow

/-! ## The tables after a pass -/

/-- The tables of `s'` are those of `s`, with the rows of the selected declarations. -/
structure Space.Rewritten (s s' : Space) (target : ModuleId) (selected : List Declaration) :
    Prop where
  own : ∀ c ∈ selected, c.descriptor.OnModule → ∃ e : Entry,
    s'.lookup? target c.name = some e ∧ c.descriptor.IsRow c.name target e.toRow ∧
      Shows s.settings c.name c.descriptor.visibility e.visibility
  own_kept : ∀ name, (∀ c ∈ selected, c.name = name → ¬c.descriptor.OnModule) →
    s'.lookup? target name = s.lookup? target name
  sing : ∀ c ∈ selected, c.descriptor.OnSingleton → ∃ (singleton : ModuleId) (e : Entry),
    s'.singletonClass? target = some singleton ∧ s'.lookup? singleton c.name = some e ∧
      c.descriptor.IsRow c.name singleton e.toRow ∧
      ShowsOnSingleton s.settings c.name c.descriptor.visibility e.visibility
  sing_kept : ∀ singleton name, s'.singletonClass? target = some singleton →
    (∀ c ∈ selected, c.name = name → ¬c.descriptor.OnSingleton) →
    s'.lookup? singleton name = s.lookup? singleton name
  others : ∀ id name, id ≠ target → s'.singletonClass? target ≠ some id →
    s'.lookup? id name = s.lookup? id name

/-- After a pass into `target` that has left the space `s`, the declaration has its row under this
name in this table. -/
structure Declaration.WrittenAt (c : Declaration) (s : Space) (target id : ModuleId)
    (name : String) : Prop where
  name : c.name = name
  table : (id = target ∧ c.descriptor.OnModule) ∨
    (s.singletonClass? target = some id ∧ c.descriptor.OnSingleton)

namespace Space.Rewritten

/-- Where a declaration is written, there is a row of its descriptor. -/
theorem written (h : s.Rewritten s' target selected) {c : Declaration} (hc : c ∈ selected)
    {id : ModuleId} {name : String} (hat : c.WrittenAt s' target id name) :
    ∃ e, s'.lookup? id name = some e ∧ c.descriptor.IsRow name id e.toRow := by
  obtain ⟨rfl, ⟨rfl, hon⟩ | ⟨hs, hon⟩⟩ := hat
  · obtain ⟨e, he, hrow, -⟩ := h.own c hc hon
    exact ⟨e, he, hrow⟩
  · obtain ⟨_, e, hs', he, hrow, -⟩ := h.sing c hc hon
    cases hs'.symm.trans hs
    exact ⟨e, he, hrow⟩

/-- Where no declaration is written, everything stays as it was. -/
theorem kept (h : s.Rewritten s' target selected) {id : ModuleId} {name : String}
    (hno : ¬∃ c ∈ selected, c.WrittenAt s' target id name) :
    s'.lookup? id name = s.lookup? id name := by
  by_cases ht : id = target
  · subst ht
    exact h.own_kept name fun c hc hname hon => hno ⟨c, hc, hname, .inl ⟨rfl, hon⟩⟩
  by_cases hs : s'.singletonClass? target = some id
  · exact h.sing_kept id name hs fun c hc hname hon => hno ⟨c, hc, hname, .inr ⟨hs, hon⟩⟩
  · exact h.others id name ht hs

end Space.Rewritten

/-- The two writes of an installation rewrite the tables. -/
theorem Space.Installed.rewritten {singleton : ModuleId} {own sing : List (Option Entry)}
    (h : s.Installed s' target singleton (s.planned target selected) own sing)
    (hnd : (selected.map (·.name)).Nodup) : s.Rewritten s' target selected := by
  have hown : ∀ name, s'.lookup? target name =
      (entryNamed? own name).or (s.lookup? target name) := by
    intro name
    rw [h.table, if_pos rfl]
  have hsing : ∀ name, s'.lookup? singleton name =
      (entryNamed? sing name).or (s.lookup? singleton name) := by
    intro name
    rw [h.table, if_neg h.ne, if_pos rfl]
  have hattached : ∀ c ∈ selected, c.descriptor.OnSingleton →
      s'.singletonClass? target = some singleton := by
    intro c hc hon
    obtain ⟨identity, hp⟩ := planned_of_mem hc s target
    have hrow := (plansRow_onSingleton.exists_iff s.settings target identity c).2 hon
    exact h.attached ⟨_, hp, Option.isSome_iff_exists.2 hrow⟩
  refine ⟨fun c hc hon => ?_, fun name hno => ?_, fun c hc hon => ?_, fun id name hid hno => ?_,
    fun id name hid hne => ?_⟩
  · obtain ⟨e, he, hrow⟩ := plansRow_onModule.written hnd h.own_rows hc hon
    exact ⟨e, by rw [hown, he, Option.some_or], hrow⟩
  · rw [hown, plansRow_onModule.unwritten h.own_rows hno, Option.none_or]
  · obtain ⟨e, he, hrow⟩ := plansRow_onSingleton.written hnd h.sing_rows hc hon
    exact ⟨singleton, e, hattached c hc hon, by rw [hsing, he, Option.some_or], hrow⟩
  · cases h.singleton_eq hid
    rw [hsing, plansRow_onSingleton.unwritten h.sing_rows hno, Option.none_or]
  · rw [h.table, if_neg hid]
    by_cases hs : id = singleton
    · -- the target has not got this singleton class, so nothing was written for it
      subst hs
      have hno : ∀ c ∈ selected, c.name = name → ¬c.descriptor.OnSingleton :=
        fun c hc _ hon => hne (hattached c hc hon)
      rw [if_pos rfl, plansRow_onSingleton.unwritten h.sing_rows hno, Option.none_or]
    · rw [if_neg hs, Option.none_or]

/-- **A pass installs exactly the selected rows.** In a reachable space a pass succeeds exactly if
its target is known and a selection can be made. It then writes the rows of the declarations that
were selected, into the table of the target and into that of its singleton class, which is another
module; under every other name, and in every other table, each entry stays what it was. -/
theorem bind_installs_selected (hs : s.Reachable) (hostType : String)
    (descriptors : List Descriptor) (target : ModuleId) :
    ((∃ bound, (s.bind hostType descriptors target).result = .ok bound) ↔
      (s.module? target).isSome = true ∧
        ∃ selected, (select descriptors s.settings.active).result = .ok selected) ∧
    ∀ bound selected, (s.bind hostType descriptors target).result = .ok bound →
      (select descriptors s.settings.active).result = .ok selected →
      (selected.map (·.name)).Nodup ∧
      (∀ c ∈ selected, descriptors[c.index]? = some c.descriptor ∧
        c.name ∈ c.descriptor.name :: c.descriptor.aliases) ∧
      (s.bind hostType descriptors target).space.singletonClass? target ≠ some target ∧
      s.Rewritten (s.bind hostType descriptors target).space target selected := by
  refine ⟨Space.bind_ok_iff hs.tower, fun bound selected hb hsel => ?_⟩
  obtain ⟨selected', singleton, own, sing, hsel', hinst, -⟩ := Space.bind_ok hs.tower hb
  rw [hsel] at hsel'
  cases hsel'
  have hnd := selected_nodup hsel
  refine ⟨hnd, fun c hc => ((mem_selected hsel).1 hc).1, fun hself => ?_, hinst.rewritten hnd⟩
  exact (hs.tower.bind hostType descriptors target).singleton_ne hself rfl

theorem bind_installs_setup_and_sqrt :
    (∃ bound, (smallSpace.bind "Math" [setupDescriptor, sqrtDescriptor] ⟨0⟩).result = .ok bound) ∧
      smallSpace.Rewritten (smallSpace.bind "Math" [setupDescriptor, sqrtDescriptor] ⟨0⟩).space ⟨0⟩
        [⟨"initialize", 0, setupDescriptor⟩, ⟨"sqrt", 1, sqrtDescriptor⟩,
          ⟨"root", 1, sqrtDescriptor⟩] := by
  obtain ⟨hiff, h⟩ := bind_installs_selected smallSpace_reachable "Math"
    [setupDescriptor, sqrtDescriptor] ⟨0⟩
  have hsel : (select [setupDescriptor, sqrtDescriptor] smallSpace.settings.active).result =
      .ok [⟨"initialize", 0, setupDescriptor⟩, ⟨"sqrt", 1, sqrtDescriptor⟩,
        ⟨"root", 1, sqrtDescriptor⟩] := rfl
  obtain ⟨bound, hb⟩ := hiff.2 ⟨rfl, _, hsel⟩
  obtain ⟨-, -, -, hrows⟩ := h bound _ hb hsel
  exact ⟨⟨bound, hb⟩, hrows⟩

end MethodBinding
