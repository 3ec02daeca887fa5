import MethodBinding.Proofs.Binding.Effect
import MethodBinding.Proofs.Run

/-!
# Binding twice

A pass that succeeds can be repeated: a second pass with the same descriptors into the same target
binds alike methods in the same order, and leaves an alike space (`rebind_repeats`). The second pass
finds the singleton class that the first one has created (`Passed.singleton_next`), and puts each
row over the one that the first pass has put under that name (`Passed.again`). Only the identities
of adapters and entries are new.
-/

namespace MethodBinding

variable {s : Space} {hostType : String} {descriptors : List Descriptor} {target : ModuleId}

/-- Two passes that succeed, bind alike methods in the same order, and leave alike spaces. -/
structure PassOutcome.Repeats (outcome outcome' : PassOutcome) : Prop where
  methods : ∃ bound bound', outcome.result = .ok bound ∧ outcome'.result = .ok bound' ∧
    List.Forall₂ BoundMethod.Alike bound bound'
  space : outcome.space.Alike outcome'.space

/-- **Binding twice is binding once.** In a reachable space, a pass that succeeds can be repeated,
whatever the tables held before: a second pass with the same descriptors into the same target
succeeds, binds alike methods in the same order, and leaves a space with the same registry and alike
entries under the same names. -/
theorem rebind_repeats (hs : s.Reachable) {bound : List BoundMethod}
    (hb : (s.bind hostType descriptors target).result = .ok bound) (hostType' : String) :
    (s.bind hostType descriptors target).Repeats
      ((s.bind hostType descriptors target).space.bind hostType' descriptors target) := by
  have h := hs.tower
  have hreg := ((Space.bind_ok_iff h).1 ⟨bound, hb⟩).1
  obtain ⟨selected, singleton, hsel, hpassed, hbare⟩ := h.bind_passed hb
  -- the second pass runs under the same settings, so it selects the same declarations
  rw [← hpassed.settings] at hsel
  obtain ⟨bound', singleton', hb', hpassed', hbare'⟩ :=
    (h.bind hostType descriptors target).bind_of_select
      (h.module?_isSome_bind hostType descriptors hreg) hsel hostType'
  cases hpassed.singleton_next hpassed'
  rw [hpassed.settings] at hpassed' hbare'
  refine ⟨⟨bound, bound', hb, hb', ?_⟩, hpassed.again hpassed'⟩
  exact BoundMethod.forall₂_alike_of_bare (hbare.trans hbare'.symm)

/-- The first pass creates the singleton class of the module, and the second one finds it there. The
function gets another adapter. -/
theorem rebind_repeats_sqrt :
    (∃ bound, (smallSpace.bind "Math" [setupDescriptor, sqrtDescriptor] ⟨0⟩).result = .ok bound) ∧
      (smallSpace.bind "Math" [setupDescriptor, sqrtDescriptor] ⟨0⟩).Repeats
        ((smallSpace.bind "Math" [setupDescriptor, sqrtDescriptor] ⟨0⟩).space.bind "Math"
          [setupDescriptor, sqrtDescriptor] ⟨0⟩) ∧
      ∃ e e', (smallSpace.bind "Math" [setupDescriptor, sqrtDescriptor] ⟨0⟩).space.lookup? ⟨1⟩
          "root" = some e ∧
        ((smallSpace.bind "Math" [setupDescriptor, sqrtDescriptor] ⟨0⟩).space.bind "Math"
          [setupDescriptor, sqrtDescriptor] ⟨0⟩).space.lookup? ⟨1⟩ "root" = some e' ∧
        e.toRow.sharesAdapter e'.toRow = false := by
  obtain ⟨bound, hb⟩ : ∃ bound,
      (smallSpace.bind "Math" [setupDescriptor, sqrtDescriptor] ⟨0⟩).result = .ok bound := ⟨_, rfl⟩
  exact ⟨⟨bound, hb⟩, rebind_repeats smallSpace_reachable hb "Math", _, _, rfl, rfl, rfl⟩

end MethodBinding
