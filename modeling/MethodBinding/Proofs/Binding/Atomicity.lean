import MethodBinding.Proofs.Run

/-!
# A failed pass changes nothing

A pass fails exactly when its target is unknown or nothing can be selected from its descriptors, and
then the space is the one it started from (`bind_atomic`). Installing has further exits, behind the
creation of a singleton class; no reachable space takes them.
-/

namespace MethodBinding

variable {s : Space} {hostType : String} {descriptors : List Descriptor} {target : ModuleId}
  {e : BindError}

namespace Space

/-- A pass that fails leaves the space as it was. -/
theorem Tower.bind_error (h : s.Tower)
    (he : (s.bind hostType descriptors target).result = .error e) :
    (s.bind hostType descriptors target).space = s := by
  obtain ⟨-, hb⟩ | ⟨_, -, -, hb⟩ | ⟨_, _, _, _, _, -, -, -, hb⟩ :=
    bind_cases h hostType descriptors target <;> rw [hb] at he ⊢
  cases he

/-- Why a pass fails. -/
theorem Tower.bind_error_iff (h : s.Tower) :
    (s.bind hostType descriptors target).result = .error e ↔
      (s.module? target = none ∧ e = .unknownModule hostType target) ∨
      ((s.module? target).isSome = true ∧ ∃ cause,
        (select descriptors s.settings.active).result = .error cause ∧
        e = .ofDescriptor hostType cause ∧ e.source? = some cause) := by
  obtain ⟨hm, hb⟩ | ⟨cause, hreg, hsel, hb⟩ | ⟨selected, _, _, _, _, hreg, hsel, -, hb⟩ :=
    bind_cases h hostType descriptors target <;> rw [hb]
  · simp [hm, eq_comm]
  · have hm : s.module? target ≠ none := Option.isSome_iff_ne_none.1 hreg
    refine ⟨fun he => ?_, fun he => ?_⟩
    · cases he
      exact .inr ⟨hreg, cause, hsel, rfl, rfl⟩
    · obtain ⟨hn, -⟩ | ⟨-, cause', hsel', rfl, -⟩ := he
      · exact absurd hn hm
      · rw [hsel] at hsel'
        cases hsel'
        rfl
  · have hm : s.module? target ≠ none := Option.isSome_iff_ne_none.1 hreg
    refine ⟨fun he => (by cases he), fun he => ?_⟩
    obtain ⟨hn, -⟩ | ⟨-, cause, hsel', -⟩ := he
    · exact absurd hn hm
    · rw [hsel] at hsel'
      cases hsel'

/-- What has been planned is installed. -/
theorem Tower.install_of_plan (h : s.Tower) {plan : Plan} {events : List Event}
    (hp : s.plan hostType descriptors target = (.ok plan, events)) (next : Nat) :
    ∃ bound s' installed, ({ s with next }).installPlan hostType target plan.methods =
      (.ok bound, s', installed) := by
  obtain ⟨-, hr⟩ | ⟨e, -, -, hr⟩ | ⟨selected, hreg, hsel, hr⟩ :=
    s.plan_cases hostType descriptors target <;> rw [hr] at hp
  · cases hp
  · cases hp
  · cases hp
    obtain ⟨_, own, sing, s', hinstall, -⟩ :=
      install_planned h hreg (selected_nodup hsel) hostType next
    exact ⟨_, s', _, hinstall⟩

end Space

/-- **A pass is atomic.** In a reachable space, a pass that fails leaves the space as it was; it
fails exactly for a target that is unknown, and for a failing selection, which is then the source of
the error; and what has been planned is always installed. -/
theorem bind_atomic (hs : s.Reachable) (hostType : String) (descriptors : List Descriptor)
    (target : ModuleId) :
    (∀ e, (s.bind hostType descriptors target).result = .error e →
      (s.bind hostType descriptors target).space = s) ∧
    (∀ e, (s.bind hostType descriptors target).result = .error e ↔
      (s.module? target = none ∧ e = .unknownModule hostType target) ∨
      ((s.module? target).isSome = true ∧ ∃ cause,
        (select descriptors s.settings.active).result = .error cause ∧
        e = .ofDescriptor hostType cause ∧ e.source? = some cause)) ∧
    ∀ plan events, s.plan hostType descriptors target = (.ok plan, events) →
      ∃ bound s' installed, ({ s with next := s.next + plan.adapters }).installPlan hostType target
        plan.methods = (.ok bound, s', installed) := by
  have h := hs.tower
  refine ⟨fun e he => h.bind_error he, fun e => h.bind_error_iff, fun plan events hp => ?_⟩
  exact h.install_of_plan hp _

/-- The same function twice is refused, and no singleton class is made for it. -/
theorem bind_atomic_sqrt_twice :
    (∃ e, (smallSpace.bind "Math" [sqrtDescriptor, sqrtDescriptor] ⟨0⟩).result = .error e) ∧
      (smallSpace.bind "Math" [sqrtDescriptor, sqrtDescriptor] ⟨0⟩).space = smallSpace := by
  have he : (smallSpace.bind "Math" [sqrtDescriptor, sqrtDescriptor] ⟨0⟩).result =
      .error (.ofDescriptor "Math" (.duplicateName "sqrt" (some ⟨"2.0"⟩))) := rfl
  exact ⟨⟨_, he⟩, (bind_atomic smallSpace_reachable "Math" _ ⟨0⟩).1 _ he⟩

end MethodBinding
