import MethodBinding.Proofs.Binding.Effect
import MethodBinding.Proofs.Binding.Rows

/-!
# Descriptors of other versions

Descriptors that are not for the active version take part in a pass: their names are declared, so
they count as duplicates and have a place in the order of names. When the pass succeeds, nothing
else is left of them. The pass without them (`select_filter`) succeeds as well and comes to the
same, up to order, and a name that only they declare keeps its entry in every table
(`other_versions_leave_no_trace`).
-/

namespace MethodBinding

variable {s : Space} {hostType : String} {descriptors : List Descriptor} {target : ModuleId}
  {selected : List Declaration} {active : VersionTag} {name : String}

/-- A name that only other versions declare is not selected. -/
theorem ne_of_mem_selected (hsel : (select descriptors active).result = .ok selected)
    (hother : ∀ d ∈ descriptors, name ∈ d.name :: d.aliases → ¬d.IsFor active) :
    ∀ c ∈ selected, c.name ≠ name := by
  rintro c hc rfl
  obtain ⟨⟨hat, hname⟩, hfor⟩ := (mem_selected hsel).1 hc
  exact hother c.descriptor (List.mem_of_getElem? hat) hname hfor

/-- **Descriptors of other versions leave no trace.** In a reachable space, if a pass succeeds, then
the pass with the descriptors for the active version alone succeeds as well, leaves an alike space
and binds alike methods, up to order. A name that only descriptors of other versions declare keeps
its entry, or has still none, in every table. -/
theorem other_versions_leave_no_trace (hs : s.Reachable) {bound : List BoundMethod}
    (hb : (s.bind hostType descriptors target).result = .ok bound) :
    (∃ bound', (s.bind hostType (descriptors.filter (·.IsFor s.settings.active)) target).result =
        .ok bound' ∧
      (s.bind hostType descriptors target).space.Alike
        (s.bind hostType (descriptors.filter (·.IsFor s.settings.active)) target).space ∧
      BoundMethod.Agree bound bound') ∧
    ∀ name, (∀ d ∈ descriptors, name ∈ d.name :: d.aliases → ¬d.IsFor s.settings.active) →
      ∀ id, (s.bind hostType descriptors target).space.lookup? id name = s.lookup? id name := by
  have h := hs.tower
  have hreg := ((Space.bind_ok_iff h).1 ⟨bound, hb⟩).1
  obtain ⟨selected, singleton, own, sing, hsel, hinst, -⟩ := Space.bind_ok h hb
  refine ⟨?_, fun name hother id => ?_⟩
  · obtain ⟨selected', hsel', hpicks⟩ := select_filter hsel
    obtain ⟨bound₁, bound', hb₁, hb', hspace, hagree⟩ :=
      h.bind_alike_of_picks hreg hsel hsel' hpicks hostType
    cases hb.symm.trans hb₁
    exact ⟨bound', hb', hspace, hagree⟩
  · have hrows := hinst.rewritten (selected_nodup hsel)
    exact hrows.kept fun ⟨c, hc, hat⟩ => ne_of_mem_selected hsel hother c hc hat.name

/-- The construction hook for an earlier version. -/
def oldSetupDescriptor : Descriptor :=
  (Draft.ofClauses "initialize" [.tag ⟨"1.8"⟩, .host ⟨"setup", .receiver⟩]).descriptor (by decide)

/-- A module with a construction hook. -/
def setupSpace : Space :=
  (Space.empty .standard).run [.defineModule "Math", .bind ⟨"Math", .ok [setupDescriptor]⟩ ⟨0⟩]

/-- The hook keeps its row, and the earlier version of the square root adds nothing. -/
theorem old_sqrt_leaves_no_trace :
    ∃ bound bound' e,
      (setupSpace.bind "Math" [oldSqrtDescriptor, oldSetupDescriptor, sqrtDescriptor] ⟨0⟩).result =
        .ok bound ∧
      (setupSpace.bind "Math" [sqrtDescriptor] ⟨0⟩).result = .ok bound' ∧
      BoundMethod.Agree bound bound' ∧
      (setupSpace.bind "Math" [oldSqrtDescriptor, oldSetupDescriptor, sqrtDescriptor]
        ⟨0⟩).space.Alike (setupSpace.bind "Math" [sqrtDescriptor] ⟨0⟩).space ∧
      setupSpace.lookup? ⟨0⟩ "initialize" = some e ∧
      (setupSpace.bind "Math" [oldSqrtDescriptor, oldSetupDescriptor, sqrtDescriptor]
        ⟨0⟩).space.lookup? ⟨0⟩ "initialize" = some e := by
  have hs : setupSpace.Reachable := ⟨_, _, rfl⟩
  obtain ⟨bound, hb⟩ : ∃ bound, (setupSpace.bind "Math"
      [oldSqrtDescriptor, oldSetupDescriptor, sqrtDescriptor] ⟨0⟩).result = .ok bound := ⟨_, rfl⟩
  obtain ⟨⟨bound', hb', hspace, hagree⟩, hkept⟩ := other_versions_leave_no_trace hs hb
  have hother : ∀ d ∈ [oldSqrtDescriptor, oldSetupDescriptor, sqrtDescriptor],
      "initialize" ∈ d.name :: d.aliases → ¬d.IsFor setupSpace.settings.active := by decide
  exact ⟨bound, bound', _, hb, hb', hagree, hspace, rfl, hkept "initialize" hother ⟨0⟩⟩

end MethodBinding
