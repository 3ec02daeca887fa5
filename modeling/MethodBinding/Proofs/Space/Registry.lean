import MethodBinding.Proofs.Space.Tower

/-!
# The registry

The registry of a space is the list of the outlines of its modules (`Space.registry`). Two spaces
have the same registry exactly if they have the same outlines (`registry_eq_iff`), and then asking
for a singleton class gives the same answer in both and leaves them with the same registry
(`singletonOf_congr`). Asking a second time changes nothing (`singletonOf_again`).

A module is its outline and its methods (`module?_congr`).
-/

namespace MethodBinding

namespace Space

variable {s s' : Space} {id other singleton : ModuleId}

/-! ## Outlines in a list -/

/-- The modules in order of their numbers, without their methods. -/
def registry (s : Space) : List Outline := s.modules.map (·.outline)

theorem outline?_eq_getElem? (s : Space) (id : ModuleId) :
    s.outline? id = s.registry[id.index]? := by
  simp only [outline?, module?, registry, List.getElem?_map]

theorem length_registry (s : Space) : s.registry.length = s.modules.length := by
  simp only [registry, List.length_map]

theorem registry_eq_iff : s'.registry = s.registry ↔ ∀ id, s'.outline? id = s.outline? id := by
  refine ⟨fun h id => ?_, fun h => ?_⟩
  · rw [outline?_eq_getElem?, outline?_eq_getElem?, h]
  · apply List.ext_getElem?
    intro index
    have hid := h ⟨index⟩
    rw [outline?_eq_getElem?, outline?_eq_getElem?] at hid
    exact hid

theorem length_congr (h : ∀ id, s'.outline? id = s.outline? id) :
    s'.modules.length = s.modules.length := by
  rw [← length_registry, ← length_registry, registry_eq_iff.2 h]

theorem nextId_congr (h : ∀ id, s'.outline? id = s.outline? id) : s'.nextId = s.nextId := by
  rw [nextId, nextId, length_congr h]

/-- A module is determined by its outline and the entries under all names. -/
theorem module?_congr (ho : s'.outline? id = s.outline? id)
    (hl : ∀ name, s'.lookup? id name = s.lookup? id name) : s'.module? id = s.module? id := by
  simp only [outline?, lookup?] at ho hl
  cases hm : s.module? id with
  | none =>
    rw [hm, Option.map_none, Option.map_eq_none_iff] at ho
    exact ho
  | some m =>
    rw [hm, Option.map_some] at ho
    obtain ⟨m', hm', houtline⟩ := Option.map_eq_some_iff.1 ho
    have hmethods : m'.methods = m.methods := by
      apply NameMap.ext_find?
      intro name
      have hname := hl name
      rw [hm, hm', Option.bind_some, Option.bind_some] at hname
      exact hname
    rw [hm']
    cases m
    cases m'
    simp_all [Module.outline]

/-! ## Asking for a singleton class -/

theorem singletonOf_new {o : Outline} (ho : s.outline? id = some o)
    (hc : o.singletonClass = none) : s.singletonOf id = (some s.nextId, s.attach id o.name) := by
  obtain ⟨hn, -⟩ | ⟨singleton, hs, -⟩ | ⟨o', ho', -, hr⟩ := s.singletonOf_cases id
  · rw [hn] at ho
    cases ho
  · simp [singletonClass?, ho, hc] at hs
  · rw [ho] at ho'
    cases ho'
    exact hr

theorem singletonOf_of_outline?_eq_none (h : s.outline? id = none) :
    s.singletonOf id = (none, s) := by
  obtain ⟨-, hr⟩ | ⟨singleton, hs, -⟩ | ⟨o, ho, -⟩ := s.singletonOf_cases id
  · exact hr
  · simp [singletonClass?, h] at hs
  · rw [h] at ho
    cases ho

/-- What asking does depends on the outlines alone. -/
theorem singletonOf_congr (h : ∀ id, s'.outline? id = s.outline? id) (id : ModuleId) :
    (s'.singletonOf id).1 = (s.singletonOf id).1 ∧
      ∀ other, (s'.singletonOf id).2.outline? other = (s.singletonOf id).2.outline? other := by
  obtain ⟨hn, hr⟩ | ⟨singleton, hs, hr⟩ | ⟨o, ho, hc, hr⟩ := s.singletonOf_cases id
  · rw [hr, singletonOf_of_outline?_eq_none ((h id).trans hn)]
    exact ⟨rfl, h⟩
  · have hs' : s'.singletonClass? id = some singleton := by
      rw [singletonClass?, h]
      exact hs
    rw [hr, singletonOf_of_singletonClass? hs']
    exact ⟨rfl, h⟩
  · have ho' : s'.outline? id = some o := (h id).trans ho
    rw [hr, singletonOf_new ho' hc, nextId_congr h]
    refine ⟨rfl, fun other => ?_⟩
    rw [outline?_attach ho', outline?_attach ho, nextId_congr h, h]

theorem singletonOf_again (s : Space) (id : ModuleId) :
    (s.singletonOf id).2.singletonOf id = s.singletonOf id := by
  cases hs : (s.singletonOf id).1 with
  | none =>
    -- only an unknown module has no singleton class afterwards
    obtain ⟨-, hr⟩ | ⟨singleton, -, hr⟩ | ⟨o, -, -, hr⟩ := s.singletonOf_cases id
    · rw [hr, hr]
    · rw [hr] at hs
      cases hs
    · rw [hr] at hs
      cases hs
  | some singleton =>
    rw [singletonOf_of_singletonClass? (singletonClass?_singletonOf hs), ← hs]

end Space

end MethodBinding
