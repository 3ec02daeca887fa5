import MethodBinding.Proofs.Binding.Effect
import MethodBinding.Proofs.Run

/-!
# One pass in two

A pass that succeeds can be split: binding a part of its descriptors and then the others comes to
the same, whichever part goes first (`bind_append_splits`). A name may be declared in both parts,
for different versions; only one part binds it then. The singleton class is the same module,
whichever pass creates it (`Passed.singleton_next`).
-/

namespace MethodBinding

variable {s : Space} {hostType : String} {first second : List Descriptor} {target : ModuleId}

/-- Binding `first` and then `second` succeeds, and comes to the same as the pass with this
outcome. -/
structure PassOutcome.SplitsInto (outcome : PassOutcome) (s : Space) (hostType : String)
    (first second : List Descriptor) (target : ModuleId) : Prop where
  methods : ∃ bound bound₁ bound₂, outcome.result = .ok bound ∧
    (s.bind hostType first target).result = .ok bound₁ ∧
    ((s.bind hostType first target).space.bind hostType second target).result = .ok bound₂ ∧
    BoundMethod.Agree bound (bound₁ ++ bound₂)
  space : outcome.space.Alike
    ((s.bind hostType first target).space.bind hostType second target).space

namespace Space

/-- A pass splits into passes with any two parts of its descriptors. -/
theorem Tower.splitsInto (h : s.Tower) {descriptors : List Descriptor}
    (hperm : descriptors.Perm (first ++ second)) {bound : List BoundMethod}
    (hb : (s.bind hostType descriptors target).result = .ok bound) :
    (s.bind hostType descriptors target).SplitsInto s hostType first second target := by
  have hreg := ((bind_ok_iff h).1 ⟨bound, hb⟩).1
  obtain ⟨selected, singleton, hsel, hpassed, hbare⟩ := h.bind_passed hb
  obtain ⟨selected₁, hsel₁⟩ := select_ok_of_subperm
    (((List.sublist_append_left first second).subperm).trans hperm.symm.subperm) hsel
  obtain ⟨selected₂, hsel₂⟩ := select_ok_of_subperm
    (((List.sublist_append_right first second).subperm).trans hperm.symm.subperm) hsel
  obtain ⟨bound₁, singleton₁, hb₁, hpassed₁, hbare₁⟩ := h.bind_of_select hreg hsel₁ hostType
  -- the second pass runs under the same settings, and uses the same singleton class
  rw [← hpassed₁.settings] at hsel₂
  obtain ⟨bound₂, singleton₂, hb₂, hpassed₂, hbare₂⟩ :=
    (h.bind hostType first target).bind_of_select (h.module?_isSome_bind hostType first hreg) hsel₂
      hostType
  cases hpassed.singleton_unique hpassed₁
  cases hpassed₁.singleton_next hpassed₂
  rw [hpassed₁.settings] at hsel₂ hpassed₂ hbare₂
  have hmethods : (bareMethods s.settings target singleton (picks selected)).Perm
      (bareMethods s.settings target singleton (picks selected₁) ++
        bareMethods s.settings target singleton (picks selected₂)) := by
    rw [← bareMethods_append]
    exact (picks_append hperm hsel hsel₁ hsel₂).map _
  have hdistinct := ((hmethods.map (·.name)).nodup_iff).1 hpassed.distinct
  refine ⟨⟨bound, bound₁, bound₂, hb, hb₁, hb₂, BoundMethod.agree_of_bare ?_⟩, ?_⟩
  · rw [List.map_append, hbare, hbare₁, hbare₂]
    exact hmethods
  · exact hpassed.alike_of_perm (hpassed₁.append hpassed₂ hdistinct) hmethods

end Space

/-- **A pass comes to the same as two.** In a reachable space, if a pass with two lists together
succeeds, then binding one list after the other succeeds as well, whichever comes first. The three
ways leave alike spaces, and bind alike methods, up to order. -/
theorem bind_append_splits (hs : s.Reachable) {bound : List BoundMethod}
    (hb : (s.bind hostType (first ++ second) target).result = .ok bound) :
    (s.bind hostType (first ++ second) target).SplitsInto s hostType first second target ∧
      (s.bind hostType (first ++ second) target).SplitsInto s hostType second first target ∧
      ((s.bind hostType first target).space.bind hostType second target).space.Alike
        ((s.bind hostType second target).space.bind hostType first target).space := by
  have hsplit := hs.tower.splitsInto (.refl _) hb
  have hother := hs.tower.splitsInto List.perm_append_comm hb
  exact ⟨hsplit, hother, hsplit.space.symm.trans hother.space⟩

/-- The square root is declared in both parts, for different versions. -/
theorem bind_splits_versions_of_sqrt :
    (∃ bound, (smallSpace.bind "Math" ([oldSqrtDescriptor, setupDescriptor] ++ [sqrtDescriptor])
        ⟨0⟩).result = .ok bound) ∧
      (smallSpace.bind "Math" ([oldSqrtDescriptor, setupDescriptor] ++ [sqrtDescriptor])
        ⟨0⟩).SplitsInto smallSpace "Math" [oldSqrtDescriptor, setupDescriptor] [sqrtDescriptor]
          ⟨0⟩ ∧
      (smallSpace.bind "Math" ([oldSqrtDescriptor, setupDescriptor] ++ [sqrtDescriptor])
        ⟨0⟩).SplitsInto smallSpace "Math" [sqrtDescriptor] [oldSqrtDescriptor, setupDescriptor]
          ⟨0⟩ := by
  obtain ⟨bound, hb⟩ : ∃ bound, (smallSpace.bind "Math"
      ([oldSqrtDescriptor, setupDescriptor] ++ [sqrtDescriptor]) ⟨0⟩).result = .ok bound :=
    ⟨_, rfl⟩
  obtain ⟨hsplit, hother, -⟩ := bind_append_splits smallSpace_reachable hb
  exact ⟨⟨bound, hb⟩, hsplit, hother⟩

end MethodBinding
