import MethodBinding.Proofs.Growth
import Mathlib.Logic.Relation

/-!
# Singleton classes

In every space that a run leads to, cells and kinds of singleton classes agree (`Space.Tower`), so
no module has two singleton classes and no two modules share one (`Tower.cell_unique`,
`Tower.attached_unique`). A module is given its singleton class when it is first asked for, and
answers the same one ever after (`Space.KeepsSingleton`). Singleton classes of singleton classes
stand on a module that is none (`Tower.exists_base`).
-/

namespace MethodBinding

namespace Space

variable {s : Space} {id other singleton : ModuleId}

/-! ## One singleton class for each module -/

/-- No two modules share a singleton class. -/
theorem Tower.cell_unique (h : s.Tower) (hc : s.singletonClass? id = some singleton)
    (hc' : s.singletonClass? other = some singleton) : id = other := by
  obtain ⟨o, ho, hcell⟩ := Option.bind_eq_some_iff.1 hc
  obtain ⟨o', ho', hcell'⟩ := Option.bind_eq_some_iff.1 hc'
  obtain ⟨-, c, hclass, hkind, -⟩ := h.cell id o singleton ho hcell
  obtain ⟨-, c', hclass', hkind', -⟩ := h.cell other o' singleton ho' hcell'
  rw [hclass] at hclass'
  cases hclass'
  rw [hkind] at hkind'
  cases hkind'
  rfl

/-- No module has two singleton classes. -/
theorem Tower.attached_unique (h : s.Tower) {singleton' : ModuleId} {o o' : Outline}
    (ho : s.outline? singleton = some o) (hkind : o.kind = .singleton id)
    (ho' : s.outline? singleton' = some o') (hkind' : o'.kind = .singleton id) :
    singleton = singleton' := by
  obtain ⟨m, hm, hcell⟩ := h.attached singleton o id ho hkind
  obtain ⟨m', hm', hcell'⟩ := h.attached singleton' o' id ho' hkind'
  rw [hm] at hm'
  cases hm'
  rw [hcell] at hcell'
  cases hcell'
  rfl

/-! ## Asking -/

theorem singletonOf_unknown (h : s.module? id = none) : s.singletonOf id = (none, s) := by
  rw [singletonOf, h]

/-- What comes of asking a registered module for its singleton class, when it has been asked before
or not. -/
structure KeepsSingleton (s : Space) (id singleton : ModuleId) (askedBefore : Bool) : Prop where
  answer : (s.singletonOf id).1 = some singleton
  first : askedBefore = false → singleton = s.nextId ∧
    (s.singletonOf id).2.modules.length = s.modules.length + 1
  again : askedBefore = true → (s.singletonOf id).2 = s
  later : ∀ operations, ((s.singletonOf id).2.run operations).singletonOf id =
    (some singleton, (s.singletonOf id).2.run operations)

theorem Tower.keepsSingleton (h : s.Tower) (hreg : (s.module? id).isSome = true) :
    ∃ singleton, s.KeepsSingleton id singleton (s.singletonClass? id).isSome := by
  obtain ⟨singleton, hs, -, -⟩ := h.singletonOf_isSome hreg
  refine ⟨singleton, hs, fun hfirst => ?_, fun hagain => ?_, fun operations => ?_⟩
  · obtain ⟨-, hr⟩ | ⟨_, hc, -⟩ | ⟨o, -, -, hr⟩ := s.singletonOf_cases id
    · rw [hr] at hs
      cases hs
    · simp [hc] at hfirst
    · rw [hr] at hs ⊢
      cases hs
      exact ⟨rfl, length_attach s id o.name⟩
  · obtain ⟨singleton', hc⟩ := Option.isSome_iff_exists.1 hagain
    rw [singletonOf_of_singletonClass? hc]
  · -- the answer stands in the cell from now on
    have hcell := singletonClass?_singletonOf hs
    exact singletonOf_of_singletonClass?
      (((h.singletonOf id).grows_run operations).singletonClass? hcell)

/-! ## What a tower stands on -/

/-- A singleton class and the module that it belongs to. -/
def IsAttached (s : Space) (singleton id : ModuleId) : Prop :=
  ∃ o, s.outline? singleton = some o ∧ o.kind = .singleton id

/-- From a module to the one that it belongs to, and so on, one comes to a module that is no
singleton class: the numbers get smaller. -/
theorem Tower.exists_base (h : s.Tower) (hreg : (s.module? id).isSome = true) :
    ∃ base m, Relation.ReflTransGen s.IsAttached id base ∧ s.module? base = some m ∧
      ∀ below, m.kind ≠ .singleton below := by
  induction hn : id.index using Nat.strongRecOn generalizing id with
  | ind n ih =>
    obtain ⟨m, hm⟩ := Option.isSome_iff_exists.1 hreg
    cases hkind : m.kind with
    | plain => exact ⟨id, m, .refl, hm, by rw [hkind]; nofun⟩
    | ofClass => exact ⟨id, m, .refl, hm, by rw [hkind]; nofun⟩
    | singleton below =>
      have ho : s.outline? id = some m.outline := by rw [outline?, hm, Option.map_some]
      obtain ⟨o, hbelow, hcell⟩ := h.attached id m.outline below ho hkind
      have hlt := (h.cell below o id hbelow hcell).1
      have hreg' : (s.module? below).isSome = true := by
        rw [← isSome_outline?, hbelow]
        rfl
      obtain ⟨base, mb, hpath, hbase, hno⟩ := ih below.index (hn ▸ hlt) hreg' rfl
      exact ⟨base, mb, .head ⟨m.outline, ho, hkind⟩ hpath, hbase, hno⟩

end Space

/-- **Singleton classes form a consistent tower.** In every space that a run leads to, cells and
kinds of singleton classes agree, and each module has at most one, of its own. Asking for that of an
unknown module changes nothing. A registered module that no operation has asked yet gets a new one,
which is one module more; whenever it is asked from then on, it answers the same, and nothing
changes. Below each singleton class there is a module that is none. -/
theorem singleton_classes_form_tower {settings : Settings} {operations : List Operation} {s : Space}
    (hs : (Space.empty settings).run operations = s) :
    s.Tower ∧
    (∀ id other singleton, s.singletonClass? id = some singleton →
      s.singletonClass? other = some singleton → id = other) ∧
    (∀ id singleton singleton' o o', s.outline? singleton = some o → o.kind = .singleton id →
      s.outline? singleton' = some o' → o'.kind = .singleton id → singleton = singleton') ∧
    (∀ id, s.module? id = none → s.singletonOf id = (none, s)) ∧
    (∀ id, (s.module? id).isSome = true →
      ∃ singleton, s.KeepsSingleton id singleton ((Space.empty settings).asked id operations)) ∧
    ∀ id, (s.module? id).isSome = true →
      ∃ base m, Relation.ReflTransGen s.IsAttached id base ∧ s.module? base = some m ∧
        ∀ below, m.kind ≠ .singleton below := by
  have hempty := Space.Tower.empty settings
  have h : s.Tower := hs ▸ hempty.run operations
  refine ⟨h, fun _ _ _ hc hc' => h.cell_unique hc hc',
    fun _ _ _ _ _ ho hk ho' hk' => h.attached_unique ho hk ho' hk',
    fun _ hn => Space.singletonOf_unknown hn, fun id hreg => ?_, fun id hreg => h.exists_base hreg⟩
  have hasked := hempty.singletonClass?_isSome_run operations id
  rw [hs, show (Space.empty settings).singletonClass? id = none from rfl] at hasked
  rw [show (Space.empty settings).asked id operations = (s.singletonClass? id).isSome from
    hasked.symm]
  exact h.keepsSingleton hreg

/-- A module function gives a module a singleton class, which is then asked for its own. -/
def towerOperations : List Operation :=
  [.defineModule "Math", .bind ⟨"Math", .ok [sqrtDescriptor]⟩ ⟨0⟩, .singletonOf ⟨1⟩]

def towerSpace : Space := (Space.empty .standard).run towerOperations

theorem singleton_classes_of_math :
    (Space.empty .standard).run towerOperations = towerSpace ∧ towerSpace.Tower ∧
      (towerSpace.singletonOf ⟨0⟩).2 = towerSpace ∧ (towerSpace.singletonOf ⟨1⟩).2 = towerSpace ∧
      (towerSpace.singletonOf ⟨2⟩).2.modules.length = 4 := by
  have hs : (Space.empty .standard).run towerOperations = towerSpace := rfl
  obtain ⟨htower, -, -, -, hkeeps, -⟩ := singleton_classes_form_tower hs
  obtain ⟨_, h0⟩ := hkeeps ⟨0⟩ rfl
  obtain ⟨_, h1⟩ := hkeeps ⟨1⟩ rfl
  obtain ⟨_, h2⟩ := hkeeps ⟨2⟩ rfl
  exact ⟨hs, htower, h0.again rfl, h1.again rfl, (h2.first rfl).2⟩

end MethodBinding
