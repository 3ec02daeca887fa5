import MethodBinding.Proofs.Binding.Atomicity
import MethodBinding.Proofs.Binding.Effect

/-!
# The order of descriptors

What a pass binds is a matter of which descriptors are in the list, not of their order
(`bind_order_irrelevant`). The order shows in the answer alone: in the order of the bound methods,
and in which name is given for a failure.
-/

namespace MethodBinding

variable {s : Space} {hostType : String} {descriptors descriptors' : List Descriptor}
  {target : ModuleId}

/-- Two failures of one kind, which may name different methods. -/
inductive BindError.SameKind : BindError → BindError → Prop where
  | unknownModule (hostType : String) (target : ModuleId) :
    SameKind (.unknownModule hostType target) (.unknownModule hostType target)
  | duplicateName (hostType : String) (name name' : String) (tag tag' : Option VersionTag) :
    SameKind (.descriptor hostType name (.duplicateName name tag))
      (.descriptor hostType name' (.duplicateName name' tag'))
  | ambiguousName (hostType : String) (name name' : String) (active : VersionTag) :
    SameKind (.descriptor hostType name (.ambiguousName name active))
      (.descriptor hostType name' (.ambiguousName name' active))

/-- Two passes that end in the same way, but for the order of what they bind. -/
inductive PassOutcome.SameUpToOrder (outcome outcome' : PassOutcome) : Prop where
  | failed {e e' : BindError} (result : outcome.result = .error e)
    (result' : outcome'.result = .error e') (kind : e.SameKind e')
    (space : outcome.space = outcome'.space)
  | bound {bound bound' : List BoundMethod} (result : outcome.result = .ok bound)
    (result' : outcome'.result = .ok bound') (space : outcome.space.Alike outcome'.space)
    (methods : BoundMethod.Agree bound bound')

namespace Space

/-- Passes that fail leave the space as it was, so they end in the same one. -/
theorem Tower.failed_same (h : s.Tower) {e e' : BindError}
    (he : (s.bind hostType descriptors target).result = .error e)
    (he' : (s.bind hostType descriptors' target).result = .error e') (hkind : e.SameKind e') :
    (s.bind hostType descriptors target).SameUpToOrder
      (s.bind hostType descriptors' target) :=
  .failed he he' hkind ((h.bind_error he).trans (h.bind_error he').symm)

theorem Tower.bind_error_of_select (h : s.Tower) (hreg : (s.module? target).isSome = true)
    {cause : DescriptorError}
    (hsel : (select descriptors s.settings.active).result = .error cause) :
    (s.bind hostType descriptors target).result = .error (.ofDescriptor hostType cause) :=
  h.bind_error_iff.2 (.inr ⟨hreg, cause, hsel, rfl, rfl⟩)

theorem Tower.bind_error_of_unknown (h : s.Tower) (hreg : ¬(s.module? target).isSome = true) :
    (s.bind hostType descriptors target).result = .error (.unknownModule hostType target) :=
  h.bind_error_iff.2 (.inl ⟨Option.not_isSome_iff_eq_none.1 hreg, rfl⟩)

theorem Tower.bound_same (h : s.Tower) (hreg : (s.module? target).isSome = true)
    {selected selected' : List Declaration}
    (hsel : (select descriptors s.settings.active).result = .ok selected)
    (hsel' : (select descriptors' s.settings.active).result = .ok selected')
    (hpicks : (picks selected).Perm (picks selected')) :
    (s.bind hostType descriptors target).SameUpToOrder
      (s.bind hostType descriptors' target) := by
  obtain ⟨bound, bound', hb, hb', hspace, hmethods⟩ :=
    h.bind_alike_of_picks hreg hsel hsel' hpicks hostType
  exact .bound hb hb' hspace hmethods

end Space

/-- **The order of descriptors does not matter.** In a reachable space, passes with the same
descriptors in another order both fail, for reasons of one kind, and leave the space as it was; or
both bind alike methods, up to order, and leave alike spaces. -/
theorem bind_order_irrelevant (hs : s.Reachable) (hperm : descriptors.Perm descriptors')
    (hostType : String) (target : ModuleId) :
    (s.bind hostType descriptors target).SameUpToOrder
      (s.bind hostType descriptors' target) := by
  have h := hs.tower
  by_cases hreg : (s.module? target).isSome = true
  · obtain ⟨name, tag, name', tag', hsel, hsel'⟩ | ⟨name, name', hsel, hsel'⟩ |
      ⟨selected, selected', hsel, hsel', hpicks⟩ := select_perm hperm s.settings.active
    · exact h.failed_same (h.bind_error_of_select hreg hsel) (h.bind_error_of_select hreg hsel')
        (.duplicateName ..)
    · exact h.failed_same (h.bind_error_of_select hreg hsel) (h.bind_error_of_select hreg hsel')
        (.ambiguousName ..)
    · exact h.bound_same hreg hsel hsel' hpicks
  · exact h.failed_same (h.bind_error_of_unknown hreg) (h.bind_error_of_unknown hreg)
      (.unknownModule ..)

/-- The methods come in the order of the descriptors, and a failure names the first of them. -/
theorem bind_order_shows_in_names :
    (smallSpace.bind "Math" [setupDescriptor, sqrtDescriptor] ⟨0⟩).SameUpToOrder
        (smallSpace.bind "Math" [sqrtDescriptor, setupDescriptor] ⟨0⟩) ∧
      (smallSpace.bind "Math" [setupDescriptor, sqrtDescriptor] ⟨0⟩).result.map
          (·.map (·.name)) = .ok ["initialize", "sqrt", "root"] ∧
      (smallSpace.bind "Math" [sqrtDescriptor, setupDescriptor] ⟨0⟩).result.map
          (·.map (·.name)) = .ok ["sqrt", "root", "initialize"] ∧
      (smallSpace.bind "Math" ([setupDescriptor, setupDescriptor] ++
          [sqrtDescriptor, sqrtDescriptor]) ⟨0⟩).SameUpToOrder
        (smallSpace.bind "Math" ([sqrtDescriptor, sqrtDescriptor] ++
          [setupDescriptor, setupDescriptor]) ⟨0⟩) ∧
      (smallSpace.bind "Math" [setupDescriptor, setupDescriptor, sqrtDescriptor, sqrtDescriptor]
        ⟨0⟩).result = .error (.ofDescriptor "Math" (.duplicateName "initialize" none)) ∧
      (smallSpace.bind "Math" [sqrtDescriptor, sqrtDescriptor, setupDescriptor, setupDescriptor]
        ⟨0⟩).result = .error (.ofDescriptor "Math" (.duplicateName "sqrt" (some ⟨"2.0"⟩))) := by
  have hperm : [setupDescriptor, sqrtDescriptor].Perm [sqrtDescriptor, setupDescriptor] :=
    .swap ..
  refine ⟨bind_order_irrelevant smallSpace_reachable hperm "Math" ⟨0⟩, rfl, rfl, ?_, rfl, rfl⟩
  exact bind_order_irrelevant smallSpace_reachable List.perm_append_comm "Math" ⟨0⟩

end MethodBinding
