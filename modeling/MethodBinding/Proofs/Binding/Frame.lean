import MethodBinding.Proofs.Binding.Rows
import MethodBinding.Proofs.Growth
import MethodBinding.Proofs.Space.Registry

/-!
# What a pass leaves alone

A pass that succeeds writes into the table of its target and into that of the target's singleton
class; every other module is what it was (`Space.Framed`). The registry grows by that singleton
class if the target has none and a selected descriptor has rows for it (`Space.AddsSingleton`), and
stays the same otherwise. What counts are the descriptors that are selected: those of other versions
never lead to a singleton class (`bind_touches_target_only`).
-/

namespace MethodBinding

variable {s s' : Space} {target : ModuleId} {descriptors : List Descriptor}
  {selected : List Declaration}

/-- A selected name goes into the table of the singleton class. -/
def NeedsSingleton (selected : List Declaration) : Prop :=
  ∃ c ∈ selected, c.descriptor.OnSingleton

/-- Descriptors of other versions are not selected, so they need no singleton class. -/
theorem not_needsSingleton {active : VersionTag}
    (hsel : (select descriptors active).result = .ok selected)
    (hother : ∀ d ∈ descriptors, d.OnSingleton → ¬d.IsFor active) : ¬NeedsSingleton selected := by
  rintro ⟨c, hc, hon⟩
  obtain ⟨⟨hat, -⟩, hfor⟩ := (mem_selected hsel).1 hc
  exact hother c.descriptor (List.mem_of_getElem? hat) hon hfor

namespace Space

/-- `s'` is `s` but for the methods and the singleton class of `target`, and for the methods of that
singleton class, which may be new. -/
structure Framed (s s' : Space) (target : ModuleId) : Prop where
  kept : ∃ o o', s.outline? target = some o ∧ s'.outline? target = some o' ∧
    o'.name = o.name ∧ o'.kind = o.kind
  others : ∀ id, id ≠ target → s'.singletonClass? target ≠ some id → s'.module? id = s.module? id

/-- `s'` has one module more than `s`, the singleton class of `target`, which has none of its
own. -/
structure AddsSingleton (s s' : Space) (target : ModuleId) : Prop where
  length : s'.modules.length = s.modules.length + 1
  cell : s'.singletonClass? target = some ⟨s.modules.length⟩
  added : ∃ o, s.outline? target = some o ∧ s'.outline? ⟨s.modules.length⟩ =
    some ⟨"#<Class:" ++ o.name ++ ">", .singleton target, none⟩

/-! ## When the registry grows -/

theorem all_isNone_planned : (s.planned target selected).all (·.onSingleton.isNone) = true ↔
    ¬NeedsSingleton selected := by
  rw [List.all_eq_true]
  refine ⟨?_, fun hno p hp => ?_⟩
  · rintro hall ⟨c, hc, hon⟩
    obtain ⟨identity, hp⟩ := planned_of_mem hc s target
    obtain ⟨r, hr⟩ := (plansRow_onSingleton.exists_iff s.settings target identity c).2 hon
    have hnone := hall _ hp
    rw [hr] at hnone
    cases hnone
  · obtain ⟨c, hc, identity, rfl⟩ := mem_planned hp
    rw [Option.isNone_iff_eq_none, Option.eq_none_iff_forall_ne_some]
    intro r hr
    exact hno ⟨c, hc, (plansRow_onSingleton.exists_iff ..).1 ⟨r, hr⟩⟩

section Registry

variable {singleton : ModuleId} {own sing : List (Option Entry)}
  (h : s.Installed s' target singleton (s.planned target selected) own sing)
include h

theorem Installed.registry_eq
    (hno : ¬(s.singletonClass? target = none ∧ NeedsSingleton selected)) :
    s'.registry = s.registry := by
  refine registry_eq_iff.2 fun id => ?_
  rw [h.outline, prepared]
  split
  · rfl
  · next hall =>
    have hneeds : NeedsSingleton selected := by
      by_contra hneeds
      exact hall (all_isNone_planned.2 hneeds)
    obtain ⟨old, hold⟩ := Option.ne_none_iff_exists'.1 fun hnone => hno ⟨hnone, hneeds⟩
    rw [singletonOf_of_singletonClass? hold]

theorem Installed.addsSingleton (hreg : (s.module? target).isSome = true)
    (hnone : s.singletonClass? target = none) (hneeds : NeedsSingleton selected) :
    s.AddsSingleton s' target := by
  rw [← isSome_outline?] at hreg
  obtain ⟨o, ho⟩ := Option.isSome_iff_exists.1 hreg
  have hcell : o.singletonClass = none := by
    rw [singletonClass?, ho] at hnone
    exact hnone
  have houtline : ∀ id, s'.outline? id = (s.attach target o.name).outline? id := by
    intro id
    rw [h.outline, prepared, if_neg fun hall => all_isNone_planned.1 hall hneeds,
      singletonOf_new ho hcell]
  refine ⟨?_, ?_, o, ho, ?_⟩
  · rw [length_congr houtline, length_attach]
  · rw [singletonClass?, houtline, outline?_attach ho, if_neg (ne_nextId hreg), if_pos rfl]
    rfl
  · rw [houtline, outline?_attach ho]
    exact if_pos rfl

end Registry

/-! ## The frame -/

theorem Tower.outline?_bind_other (h : s.Tower) (hostType : String)
    (descriptors : List Descriptor) {id : ModuleId} (hid : id ≠ target)
    (hsingleton : (s.bind hostType descriptors target).space.singletonClass? target ≠ some id) :
    (s.bind hostType descriptors target).space.outline? id = s.outline? id := by
  have houtline : ∀ other, (s.bind hostType descriptors target).space.outline? other = _ :=
    h.outline?_bind hostType descriptors
  cases hu : (s.bind hostType descriptors target).usesSingleton with
  | false =>
    rw [houtline, hu]
    rfl
  | true =>
    -- asking for a singleton class changes the target and the new module at most
    simp only [hu, if_true] at houtline
    rw [singletonClass?_congr (houtline target)] at hsingleton
    rw [houtline]
    obtain ⟨-, hr⟩ | ⟨_, -, hr⟩ | ⟨o, ho, -, hr⟩ := s.singletonOf_cases target
    · rw [hr]
    · rw [hr]
    · have hclass := singletonClass?_singletonOf (congrArg Prod.fst hr)
      have hnext : id ≠ s.nextId := by
        rintro rfl
        exact hsingleton hclass
      rw [hr]
      show (s.attach target o.name).outline? id = _
      rw [outline?_attach ho, if_neg hnext, if_neg hid]

theorem Tower.framed_bind (h : s.Tower) {hostType : String} {bound : List BoundMethod}
    (hb : (s.bind hostType descriptors target).result = .ok bound) :
    s.Framed (s.bind hostType descriptors target).space target := by
  have hreg := ((bind_ok_iff h).1 ⟨bound, hb⟩).1
  obtain ⟨selected, singleton, own, sing, hsel, hinst, -⟩ := bind_ok h hb
  have hrows := hinst.rewritten (selected_nodup hsel)
  refine ⟨?_, fun id hid hsingleton => ?_⟩
  · rw [← isSome_outline?] at hreg
    obtain ⟨o, ho⟩ := Option.isSome_iff_exists.1 hreg
    obtain ⟨o', ho', hext⟩ := h.grows_bind hostType descriptors target target o ho
    exact ⟨o, o', ho, ho', hext.name, hext.kind⟩
  · apply module?_congr
    · exact h.outline?_bind_other hostType descriptors hid hsingleton
    · intro name
      exact hrows.others id name hid hsingleton

end Space

/-- **A pass touches its target and the singleton class of its target only.** In a reachable space,
a pass that succeeds leaves every other module as it was. It adds one module, the singleton class of
the target, if the target has none and a selected name goes into its table; otherwise the registry
stays the same, so it does if all descriptors for a singleton class are of other versions. -/
theorem bind_touches_target_only (hs : s.Reachable) {hostType : String}
    {bound : List BoundMethod} {log : List LogRecord}
    (hb : s.bind hostType descriptors target = ⟨.ok bound, s', log⟩) :
    s.Framed s' target ∧
    (∃ selected, (select descriptors s.settings.active).result = .ok selected ∧
      (s.singletonClass? target = none ∧ NeedsSingleton selected → s.AddsSingleton s' target) ∧
      (¬(s.singletonClass? target = none ∧ NeedsSingleton selected) →
        s'.registry = s.registry)) ∧
    ((∀ d ∈ descriptors, d.OnSingleton → ¬d.IsFor s.settings.active) →
      s'.registry = s.registry) := by
  have h := hs.tower
  have hok : (s.bind hostType descriptors target).result = .ok bound := by rw [hb]
  have hreg := ((Space.bind_ok_iff h).1 ⟨bound, hok⟩).1
  obtain ⟨selected, singleton, own, sing, hsel, hinst, -⟩ := Space.bind_ok h hok
  have hframed := h.framed_bind hok
  rw [hb] at hinst hframed
  refine ⟨hframed, ⟨selected, hsel, ?_, hinst.registry_eq⟩, fun hother => ?_⟩
  · rintro ⟨hnone, hneeds⟩
    exact hinst.addsSingleton hreg hnone hneeds
  · exact hinst.registry_eq fun hneeds => not_needsSingleton hsel hother hneeds.2

/-- The square root needs a singleton class. Its earlier version is passed over and needs none. -/
theorem bind_touches_math_only :
    (∃ bound s' log,
      smallSpace.bind "Math" [setupDescriptor, sqrtDescriptor] ⟨0⟩ = ⟨.ok bound, s', log⟩ ∧
        smallSpace.Framed s' ⟨0⟩ ∧ smallSpace.AddsSingleton s' ⟨0⟩) ∧
      ∃ bound s' log,
        smallSpace.bind "Math" [setupDescriptor, oldSqrtDescriptor] ⟨0⟩ = ⟨.ok bound, s', log⟩ ∧
          smallSpace.Framed s' ⟨0⟩ ∧ s'.registry = smallSpace.registry := by
  constructor
  · obtain ⟨bound, s', log, hb⟩ : ∃ bound s' log,
        smallSpace.bind "Math" [setupDescriptor, sqrtDescriptor] ⟨0⟩ = ⟨.ok bound, s', log⟩ :=
      ⟨_, _, _, rfl⟩
    obtain ⟨hframed, ⟨selected, hsel, hadds, -⟩, -⟩ :=
      bind_touches_target_only smallSpace_reachable hb
    have hmem : ⟨"sqrt", 1, sqrtDescriptor⟩ ∈ selected :=
      (mem_selected hsel).2 ⟨⟨rfl, by decide⟩, .inr rfl⟩
    exact ⟨bound, s', log, hb, hframed, hadds ⟨rfl, _, hmem, .inr (.inr rfl)⟩⟩
  · obtain ⟨bound, s', log, hb⟩ : ∃ bound s' log,
        smallSpace.bind "Math" [setupDescriptor, oldSqrtDescriptor] ⟨0⟩ = ⟨.ok bound, s', log⟩ :=
      ⟨_, _, _, rfl⟩
    obtain ⟨hframed, -, hkept⟩ := bind_touches_target_only smallSpace_reachable hb
    refine ⟨bound, s', log, hb, hframed, hkept fun d hd hon => ?_⟩
    rcases List.mem_pair.1 hd with rfl | rfl
    · rcases hon with hon | hon | hon <;> cases hon
    · rw [← Descriptor.appliesTo_iff]
      decide

end MethodBinding
