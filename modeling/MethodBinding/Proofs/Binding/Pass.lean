import MethodBinding.Proofs.Binding.Install
import MethodBinding.Proofs.Selection

/-!
# What a pass does

`Space.plan_cases` lists the three ways planning can end, and `Space.bind_cases` those of a whole
pass: in a space whose singleton classes form a tower, installing a plan never fails, so a pass
fails only before it changes anything. What a pass that succeeds makes of the space is said by
`Space.Installed`, for the methods planned for the selected declarations.
-/

namespace MethodBinding

variable {s : Space} {target : ModuleId} {hostType : String} {descriptors : List Descriptor}
  {selected : List Declaration}

/-! ## Planning -/

/-- The events of the names that a selection passes over. -/
def skippedEvents (s : Space) (descriptors : List Descriptor) : List Event :=
  (select descriptors s.settings.active).skipped.map fun name =>
    .noDescriptor name s.settings.active

/-- The methods that a pass plans for the selected declarations. -/
def Space.planned (s : Space) (target : ModuleId) (selected : List Declaration) :
    List PlannedMethod :=
  (Plan.ofSelected s.settings target s.next selected).methods

/-- The ways planning can end: the target is unknown, no selection can be made, or one is. -/
theorem Space.plan_cases (s : Space) (hostType : String) (descriptors : List Descriptor)
    (target : ModuleId) :
    (s.module? target = none ∧
      s.plan hostType descriptors target = (.error (.unknownModule hostType target), [])) ∨
    (∃ e, (s.module? target).isSome = true ∧
      (select descriptors s.settings.active).result = .error e ∧
      s.plan hostType descriptors target =
        (.error (.ofDescriptor hostType e), skippedEvents s descriptors)) ∨
    ∃ selected, (s.module? target).isSome = true ∧
      (select descriptors s.settings.active).result = .ok selected ∧
      s.plan hostType descriptors target =
        (.ok (.ofSelected s.settings target s.next selected), skippedEvents s descriptors) := by
  unfold plan
  cases hm : s.module? target with
  | none => exact .inl ⟨rfl, rfl⟩
  | some m =>
    right
    cases hr : (select descriptors s.settings.active).result with
    | error e => exact .inl ⟨e, rfl, rfl, by simp only [hr]; rfl⟩
    | ok selected => exact .inr ⟨selected, rfl, rfl, by simp only [hr]; rfl⟩

/-- Planned rows go under the names that were selected. -/
theorem wellNamed_planned (s : Space) (target : ModuleId)
    (hnd : (selected.map (·.name)).Nodup) : WellNamed (s.planned target selected) := by
  have hrow : ∀ {p : PlannedMethod} {r : Row}, p ∈ s.planned target selected →
      p.onModule = some r ∨ p.onSingleton = some r → r.name = p.name := by
    intro p r hp hr
    obtain ⟨c, -, rfl⟩ := List.mem_map.1 hp
    rcases hr with hr | hr <;> obtain ⟨v, -, rfl⟩ := Option.map_eq_some_iff.1 hr <;> rfl
  refine ⟨fun p hp r hr => hrow hp (.inl hr), fun p hp r hr => hrow hp (.inr hr), ?_⟩
  rw [show (s.planned target selected).map (·.name) = selected.map (·.name) from List.map_map ..]
  exact hnd

/-! ## The pass -/

/-- Events as a pass records them. -/
def passLog (hostType : String) (target : ModuleId) (events : List Event) : List LogRecord :=
  events.map (⟨·, some ⟨hostType, target⟩⟩)

namespace Space

/-- The next unused number has no part in what a singleton class is. -/
theorem singletonOf_next (s : Space) (next : Nat) (id : ModuleId) :
    ({ s with next }).singletonOf id =
      ((s.singletonOf id).1, { (s.singletonOf id).2 with next }) := by
  have hm : ({ s with next }).module? id = s.module? id := rfl
  simp only [singletonOf, hm]
  cases s.module? id with
  | none => rfl
  | some m =>
    dsimp only
    cases m.singletonClass <;> rfl

theorem Installed.of_next {s' : Space} {singleton : ModuleId} {methods : List PlannedMethod}
    {own sing : List (Option Entry)} {next : Nat}
    (h : ({ s with next }).Installed s' target singleton methods own sing) :
    s.Installed s' target singleton methods own sing where
  own_rows := h.own_rows
  sing_rows := h.sing_rows
  singletonOf := by
    have hs := h.singletonOf
    rw [singletonOf_next] at hs
    exact hs
  ne := h.ne
  settings := h.settings
  outline id := by
    rw [h.outline, prepared, prepared, singletonOf_next]
    split <;> rfl
  table := h.table

/-- What is planned for a selection is installed, whatever numbers are used up before. -/
theorem install_planned (h : s.Tower) (hreg : (s.module? target).isSome = true)
    (hnd : (selected.map (·.name)).Nodup) (hostType : String) (next : Nat) :
    ∃ singleton own sing s',
      ({ s with next }).installPlan hostType target (s.planned target selected) =
        (.ok (boundMethods (s.planned target selected) own sing), s',
          installingEvents own ++ installingEvents sing) ∧
      s.Installed s' target singleton (s.planned target selected) own sing := by
  have h' : ({ s with next }).Tower := h.congr fun _ => rfl
  obtain ⟨singleton, own, sing, s', hinstall, hinst⟩ :=
    installPlan_ok h' hreg (wellNamed_planned s target hnd) hostType
  exact ⟨singleton, own, sing, s', hinstall, hinst.of_next⟩

/-- The ways a pass can end. Once there is a plan, it is installed. -/
theorem bind_cases (h : s.Tower) (hostType : String) (descriptors : List Descriptor)
    (target : ModuleId) :
    (s.module? target = none ∧ s.bind hostType descriptors target =
      ⟨.error (.unknownModule hostType target), s,
        passLog hostType target [.aborted (.unknownModule hostType target)]⟩) ∨
    (∃ e, (s.module? target).isSome = true ∧
      (select descriptors s.settings.active).result = .error e ∧
      s.bind hostType descriptors target = ⟨.error (.ofDescriptor hostType e), s,
        passLog hostType target (skippedEvents s descriptors ++
          [.aborted (.ofDescriptor hostType e)])⟩) ∨
    ∃ selected singleton own sing s', (s.module? target).isSome = true ∧
      (select descriptors s.settings.active).result = .ok selected ∧
      s.Installed s' target singleton (s.planned target selected) own sing ∧
      s.bind hostType descriptors target =
        ⟨.ok (boundMethods (s.planned target selected) own sing), s',
          passLog hostType target (skippedEvents s descriptors ++
            (installingEvents own ++ installingEvents sing) ++
            [.complete (boundMethods (s.planned target selected) own sing).length])⟩ := by
  unfold bind
  obtain ⟨hm, hp⟩ | ⟨e, hreg, hr, hp⟩ | ⟨selected, hreg, hr, hp⟩ :=
    s.plan_cases hostType descriptors target <;> rw [hp]
  · exact .inl ⟨hm, rfl⟩
  · exact .inr (.inl ⟨e, hreg, hr, rfl⟩)
  · obtain ⟨singleton, own, sing, s', hinstall, hinst⟩ := install_planned h hreg
      (selected_nodup hr) hostType
      (s.next + (Plan.ofSelected s.settings target s.next selected).adapters)
    unfold planned at hinstall
    refine .inr (.inr ⟨selected, singleton, own, sing, s', hreg, hr, hinst, ?_⟩)
    simp only [hinstall]
    rfl

/-- A pass that succeeds has installed what was selected. -/
theorem bind_ok (h : s.Tower) {bound : List BoundMethod}
    (hr : (s.bind hostType descriptors target).result = .ok bound) :
    ∃ selected singleton own sing,
      (select descriptors s.settings.active).result = .ok selected ∧
      s.Installed (s.bind hostType descriptors target).space target singleton
        (s.planned target selected) own sing ∧
      bound = boundMethods (s.planned target selected) own sing := by
  obtain ⟨-, hb⟩ | ⟨e, -, -, hb⟩ | ⟨selected, singleton, own, sing, s', -, hsel, hinst, hb⟩ :=
    bind_cases h hostType descriptors target <;> rw [hb] at hr ⊢
  · cases hr
  · cases hr
  · cases hr
    exact ⟨selected, singleton, own, sing, hsel, hinst, rfl⟩

/-- A pass succeeds exactly for a known target and a selection that can be made. -/
theorem bind_ok_iff (h : s.Tower) :
    (∃ bound, (s.bind hostType descriptors target).result = .ok bound) ↔
      (s.module? target).isSome = true ∧
        ∃ selected, (select descriptors s.settings.active).result = .ok selected := by
  obtain ⟨hm, hb⟩ | ⟨e, hreg, hsel, hb⟩ | ⟨selected, _, own, sing, s', hreg, hsel, -, hb⟩ :=
    bind_cases h hostType descriptors target
  · simp [hb, hm]
  · simp [hb, hsel]
  · simp [hb, hsel, hreg]

theorem Tower.bind (h : s.Tower) (hostType : String) (descriptors : List Descriptor)
    (target : ModuleId) : (s.bind hostType descriptors target).space.Tower := by
  obtain ⟨-, hb⟩ | ⟨e, -, -, hb⟩ | ⟨selected, singleton, own, sing, s', -, -, hinst, hb⟩ :=
    bind_cases h hostType descriptors target <;> rw [hb]
  · exact h
  · exact h
  · refine Tower.congr ?_ hinst.outline
    rw [prepared]
    split
    · exact h
    · exact h.singletonOf target

end Space

end MethodBinding
