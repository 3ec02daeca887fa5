import MethodBinding.Space

/-!
# The tower of singleton classes

A module keeps its singleton class in a cell, and a singleton class keeps the module it belongs to
in its kind. `Space.Tower` says that the two agree, and that a singleton class comes after its
module, so that the two are different.

The invariant does not depend on methods: it is stated on outlines (`Space.outline?`), which a write
into a table leaves alone (`outline?_modifyMethods`). It is kept by everything that grows the
registry (`Tower.define`, `Tower.singletonOf`). Asking for a singleton class changes no table
(`lookup?_singletonOf`).
-/

namespace MethodBinding

/-- A module without its methods. -/
structure Outline where
  name : String
  kind : ModuleKind
  singletonClass : Option ModuleId
deriving DecidableEq

def Module.outline (m : Module) : Outline := ⟨m.name, m.kind, m.singletonClass⟩

namespace Space

variable {s : Space} {id other singleton : ModuleId}

/-! ## Outlines -/

def outline? (s : Space) (id : ModuleId) : Option Outline := (s.module? id).map (·.outline)

/-- The singleton class that a module has already. -/
def singletonClass? (s : Space) (id : ModuleId) : Option ModuleId :=
  (s.outline? id).bind (·.singletonClass)

theorem isSome_outline? : (s.outline? id).isSome = (s.module? id).isSome := Option.isSome_map

theorem outline?_nextId (s : Space) : s.outline? s.nextId = none := by
  simp [outline?, module?, nextId]

theorem ne_nextId (h : (s.outline? id).isSome = true) : id ≠ s.nextId := by
  rintro rfl
  rw [outline?_nextId] at h
  cases h

theorem index_lt_nextId (h : (s.outline? id).isSome = true) : id.index < s.nextId.index := by
  rw [isSome_outline?] at h
  exact module?_isSome.1 h

theorem outline?_modifyMethods (s : Space) (id other : ModuleId) (f : MethodTable → MethodTable) :
    (s.modifyMethods id f).outline? other = s.outline? other := by
  simp only [outline?, modifyMethods, module?_modify]
  split
  · rw [Option.map_map]
    rfl
  · rfl

theorem outline?_define (s : Space) (name : String) (kind : ModuleKind) (id : ModuleId) :
    (s.define name kind).outline? id =
      if id = s.nextId then some ⟨name, kind, none⟩ else s.outline? id := by
  simp only [outline?, define, module?_register]
  split <;> rfl

/-- A new module has an empty table. -/
theorem lookup?_define (s : Space) (moduleName : String) (kind : ModuleKind) (id : ModuleId)
    (name : String) : (s.define moduleName kind).lookup? id name = s.lookup? id name := by
  rw [lookup?, define, module?_register]
  split
  · next hnext =>
    have hnone : s.module? s.nextId = none := Option.map_eq_none_iff.1 (outline?_nextId s)
    rw [lookup?, hnext, hnone]
    rfl
  · rfl

/-! ## Asking for a singleton class -/

/-- The space with a new singleton class for the module `id`, which is called `name`. -/
def attach (s : Space) (id : ModuleId) (name : String) : Space :=
  (s.define (Module.singletonName name) (.singleton id)).modify id fun m =>
    { m with singletonClass := some s.nextId }

/-- What asking for a singleton class can do. -/
theorem singletonOf_cases (s : Space) (id : ModuleId) :
    (s.outline? id = none ∧ s.singletonOf id = (none, s)) ∨
    (∃ singleton, s.singletonClass? id = some singleton ∧ s.singletonOf id = (some singleton, s)) ∨
    (∃ o, s.outline? id = some o ∧ o.singletonClass = none ∧
      s.singletonOf id = (some s.nextId, s.attach id o.name)) := by
  unfold singletonOf singletonClass? outline?
  cases hm : s.module? id with
  | none => exact .inl ⟨rfl, rfl⟩
  | some m =>
    right
    cases hc : m.singletonClass with
    | some singleton => exact .inl ⟨singleton, by simp [Module.outline, hc], by simp [hc]⟩
    | none => exact .inr ⟨m.outline, rfl, hc, by simp only [hc]; rfl⟩

theorem outline?_attach {o : Outline} (h : s.outline? id = some o) (other : ModuleId) :
    (s.attach id o.name).outline? other =
      if other = s.nextId then some ⟨Module.singletonName o.name, .singleton id, none⟩
      else if other = id then some { o with singletonClass := some s.nextId }
      else s.outline? other := by
  have hne : id ≠ s.nextId := ne_nextId (by rw [h]; rfl)
  have hdef := outline?_define s (Module.singletonName o.name) (.singleton id) other
  simp only [outline?] at h hdef ⊢
  simp only [attach, module?_modify]
  by_cases hid : id = other
  · subst hid
    obtain ⟨m, hm, rfl⟩ := Option.map_eq_some_iff.1 h
    rw [if_neg hne, hm] at hdef
    obtain ⟨m', hm', ho⟩ := Option.map_eq_some_iff.1 hdef
    rw [if_pos rfl, if_neg hne, if_pos rfl, hm']
    show some (Outline.mk m'.outline.name m'.outline.kind (some s.nextId)) = _
    rw [show m'.outline = m.outline from ho]
  · rw [if_neg hid, hdef, if_neg (Ne.symm hid)]

/-- A new singleton class is empty, and no other table changes. -/
theorem lookup?_attach (s : Space) (id : ModuleId) (moduleName : String) (other : ModuleId)
    (name : String) : (s.attach id moduleName).lookup? other name = s.lookup? other name := by
  rw [← lookup?_define s (Module.singletonName moduleName) (.singleton id) other name]
  simp only [lookup?, attach, module?_modify]
  split
  · cases (s.define (Module.singletonName moduleName) (.singleton id)).module? other <;> rfl
  · rfl

theorem lookup?_singletonOf (s : Space) (id other : ModuleId) (name : String) :
    (s.singletonOf id).2.lookup? other name = s.lookup? other name := by
  obtain ⟨-, h⟩ | ⟨_, -, h⟩ | ⟨o, ho, -, h⟩ := s.singletonOf_cases id <;> rw [h]
  exact lookup?_attach s id o.name other name

/-- A singleton class that is there already is found, and nothing is created. -/
theorem singletonOf_of_singletonClass? (h : s.singletonClass? id = some singleton) :
    s.singletonOf id = (some singleton, s) := by
  obtain ⟨hn, -⟩ | ⟨_, hc, hr⟩ | ⟨o, ho, hc, -⟩ := s.singletonOf_cases id
  · simp [singletonClass?, hn] at h
  · rw [hc] at h
    cases h
    exact hr
  · simp [singletonClass?, ho, hc] at h

/-- The singleton class that is answered is the one that the module has afterwards. -/
theorem singletonClass?_singletonOf (h : (s.singletonOf id).1 = some singleton) :
    (s.singletonOf id).2.singletonClass? id = some singleton := by
  obtain ⟨-, hr⟩ | ⟨_, hc, hr⟩ | ⟨o, ho, -, hr⟩ := s.singletonOf_cases id <;> rw [hr] at h ⊢
  · cases h
  · cases h
    exact hc
  · cases h
    have hne : id ≠ s.nextId := ne_nextId (by rw [ho]; rfl)
    rw [singletonClass?, outline?_attach ho, if_neg hne, if_pos rfl]
    rfl

/-! ## The invariant -/

/-- Cells and kinds agree: what a cell holds is a singleton class of that module, registered after
it, and each singleton class is held by the cell of its module. -/
structure Tower (s : Space) : Prop where
  cell : ∀ id o singleton, s.outline? id = some o → o.singletonClass = some singleton →
    id.index < singleton.index ∧
      ∃ o', s.outline? singleton = some o' ∧ o'.kind = .singleton id ∧
        o'.name = "#<Class:" ++ o.name ++ ">"
  attached : ∀ singleton o' id, s.outline? singleton = some o' → o'.kind = .singleton id →
    ∃ o, s.outline? id = some o ∧ o.singletonClass = some singleton

theorem Tower.congr {s' : Space} (h : s.Tower) (ho : ∀ id, s'.outline? id = s.outline? id) :
    s'.Tower := by
  refine ⟨?_, ?_⟩
  · simpa only [ho] using h.cell
  · simpa only [ho] using h.attached

theorem Tower.empty (settings : Settings) : (empty settings).Tower := by
  constructor <;> intro _ _ _ h <;> simp [outline?, module?, Space.empty] at h

/-- A module that is no singleton class adds nothing to the tower. -/
theorem Tower.define (h : s.Tower) {name : String} {kind : ModuleKind}
    (hk : ∀ id, kind ≠ .singleton id) : (s.define name kind).Tower := by
  have hkeep : ∀ id o, s.outline? id = some o → (s.define name kind).outline? id = some o := by
    intro id o ho
    rw [outline?_define, if_neg (ne_nextId (by rw [ho]; rfl)), ho]
  refine ⟨?_, ?_⟩
  · intro id o singleton ho hc
    rw [outline?_define] at ho
    split at ho
    · cases ho
      cases hc
    · obtain ⟨hlt, o', ho', hkind⟩ := h.cell id o singleton ho hc
      exact ⟨hlt, o', hkeep _ _ ho', hkind⟩
  · intro singleton o' id ho' hkind
    rw [outline?_define] at ho'
    split at ho'
    · cases ho'
      exact absurd hkind (hk id)
    · obtain ⟨o, ho, hc⟩ := h.attached singleton o' id ho' hkind
      exact ⟨o, hkeep _ _ ho, hc⟩

theorem Tower.attach (h : s.Tower) {o : Outline} (ho : s.outline? id = some o)
    (hc : o.singletonClass = none) : (s.attach id o.name).Tower := by
  have hlt := index_lt_nextId (by rw [ho]; rfl : (s.outline? id).isSome = true)
  have hne : id ≠ s.nextId := ne_nextId (by rw [ho]; rfl)
  have hat := outline?_attach ho
  refine ⟨?_, ?_⟩
  · intro m om singleton hm hcell
    rw [hat] at hm
    split at hm
    · cases hm
      cases hcell
    split at hm
    · -- the module that gets its singleton class now
      next hid =>
      subst hid
      cases hm
      cases hcell
      exact ⟨hlt, _, by rw [hat, if_pos rfl], rfl, rfl⟩
    · obtain ⟨hlt', o', ho', hkind, hname⟩ := h.cell m om singleton hm hcell
      refine ⟨hlt', ?_⟩
      rw [hat, if_neg (ne_nextId (by rw [ho']; rfl))]
      split
      · next hid =>
        subst hid
        rw [ho] at ho'
        cases ho'
        exact ⟨_, rfl, hkind, hname⟩
      · exact ⟨o', ho', hkind, hname⟩
  · intro singleton o' m ho' hkind
    rw [hat] at ho'
    split at ho'
    · next hs =>
      cases ho'
      cases hkind
      exact ⟨_, by rw [hat, if_neg hne, if_pos rfl], by rw [hs]⟩
    · -- an older singleton class, whose module is not `id`: the cell of `id` was empty
      have hold : ∃ oo, s.outline? singleton = some oo ∧ oo.kind = .singleton m := by
        split at ho'
        · next hid =>
          cases ho'
          exact ⟨o, hid ▸ ho, hkind⟩
        · exact ⟨o', ho', hkind⟩
      obtain ⟨oo, hoo, hkind⟩ := hold
      obtain ⟨om, hom, hcell⟩ := h.attached singleton oo m hoo hkind
      have hmid : m ≠ id := by
        rintro rfl
        rw [ho] at hom
        cases hom
        rw [hc] at hcell
        cases hcell
      exact ⟨om, by rw [hat, if_neg (ne_nextId (by rw [hom]; rfl)), if_neg hmid, hom], hcell⟩

theorem Tower.singletonOf (h : s.Tower) (id : ModuleId) : (s.singletonOf id).2.Tower := by
  obtain ⟨-, hr⟩ | ⟨_, -, hr⟩ | ⟨o, ho, hc, hr⟩ := s.singletonOf_cases id <;> rw [hr]
  · exact h
  · exact h
  · exact h.attach ho hc

theorem Tower.singleton_ne (h : s.Tower) (hc : s.singletonClass? id = some singleton) :
    singleton ≠ id := by
  rintro rfl
  obtain ⟨o, ho, hcell⟩ := Option.bind_eq_some_iff.1 hc
  exact Nat.lt_irrefl _ (h.cell singleton o singleton ho hcell).1

/-- A singleton class in a cell is registered. -/
theorem Tower.singleton_isSome (h : s.Tower) (hc : s.singletonClass? id = some singleton) :
    (s.module? singleton).isSome = true := by
  obtain ⟨o, ho, hcell⟩ := Option.bind_eq_some_iff.1 hc
  obtain ⟨-, o', ho', -⟩ := h.cell id o singleton ho hcell
  rw [← isSome_outline?, ho']
  rfl

end Space

end MethodBinding
