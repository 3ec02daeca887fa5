import MethodBinding.Proofs.Selection
import Mathlib.Data.List.Flatten
import Mathlib.Data.List.Perm.Basic

/-!
# What is picked, whatever the order

A selection picks names with their descriptors (`picks`). Whether it can be made, and what it picks,
is a matter of which descriptors are in the list (`nodup_flatMap_keys`, `ambiguous_iff`,
`mem_picks`), so the order of the descriptors shows only in the order of the picks
(`select_perm`). What can be selected from a list can be selected from a part of it
(`select_ok_of_subperm`); the part for the active version gives the same picks (`select_filter`),
and the picks of two lists together are those of each (`picks_append`).
-/

namespace MethodBinding

variable {descriptors descriptors' : List Descriptor} {active : VersionTag}
  {selected selected' : List Declaration} {name : String} {d : Descriptor}

/-! ## Descriptors by membership -/

theorem exists_declares :
    (∃ i, Declares descriptors name i d) ↔ d ∈ descriptors ∧ name ∈ d.name :: d.aliases := by
  simp only [Declares, exists_and_right, List.mem_iff_getElem?]

theorem Descriptor.mem_keys (h : name ∈ d.name :: d.aliases) : (name, d.tag) ∈ d.keys :=
  List.mem_map.2 ⟨name, h, rfl⟩

/-- There is a duplicate if some name with its tag stands twice. -/
theorem nodup_flatMap_keys :
    (descriptors.flatMap Descriptor.keys).Nodup ↔ ¬HasDuplicate descriptors := by
  rw [← map_key_declarations]
  exact nodup_keys

theorem ambiguous_iff : Ambiguous descriptors active name ↔
    (∃ d ∈ descriptors, name ∈ d.name :: d.aliases ∧ d.tag = none) ∧
      ∃ e ∈ descriptors, name ∈ e.name :: e.aliases ∧ e.tag = some active := by
  have hdeclares : ∀ tag, (∃ i d, Declares descriptors name i d ∧ d.tag = tag) ↔
      ∃ d ∈ descriptors, name ∈ d.name :: d.aliases ∧ d.tag = tag := by
    intro tag
    rw [exists_comm]
    simp only [exists_and_right, exists_declares, and_assoc]
  rw [Ambiguous, hdeclares, hdeclares]

/-! ## What can be selected -/

theorem HasDuplicate.of_sublist (h : descriptors'.Sublist descriptors)
    (hd : HasDuplicate descriptors') : HasDuplicate descriptors := by
  by_contra hno
  have hnodup := (nodup_flatMap_keys.2 hno).sublist (h.flatMap Descriptor.keys)
  exact nodup_flatMap_keys.1 hnodup hd

theorem Ambiguous.of_subset (h : descriptors' ⊆ descriptors)
    (ha : Ambiguous descriptors' active name) : Ambiguous descriptors active name := by
  obtain ⟨⟨d, hd, hplain⟩, e, he, htagged⟩ := ambiguous_iff.1 ha
  exact ambiguous_iff.2 ⟨⟨d, h hd, hplain⟩, e, h he, htagged⟩

theorem hasDuplicate_perm (h : descriptors.Perm descriptors') :
    HasDuplicate descriptors ↔ HasDuplicate descriptors' := by
  have hkeys := (h.flatMap_right Descriptor.keys).nodup_iff
  rw [nodup_flatMap_keys, nodup_flatMap_keys] at hkeys
  exact not_iff_not.1 hkeys

theorem ambiguous_perm (h : descriptors.Perm descriptors') :
    Ambiguous descriptors active name ↔ Ambiguous descriptors' active name :=
  ⟨.of_subset h.subset, .of_subset h.symm.subset⟩

theorem exists_select_ok_iff :
    (∃ selected, (select descriptors active).result = .ok selected) ↔
      ¬HasDuplicate descriptors ∧ ∀ name, ¬Ambiguous descriptors active name := by
  refine ⟨?_, ?_⟩
  · rintro ⟨selected, h⟩
    obtain ⟨hno, hna, -⟩ := select_ok_iff.1 h
    exact ⟨hno, hna⟩
  · rintro ⟨hno, hna⟩
    exact ⟨_, select_ok_iff.2 ⟨hno, hna, rfl⟩⟩

/-- What can be selected from a list can be selected from a part of it, in any order. -/
theorem select_ok_of_subperm (h : descriptors'.Subperm descriptors)
    (hsel : (select descriptors active).result = .ok selected) :
    ∃ selected', (select descriptors' active).result = .ok selected' := by
  obtain ⟨part, hperm, hpart⟩ := h
  obtain ⟨hno, hna, -⟩ := select_ok_iff.1 hsel
  refine exists_select_ok_iff.2 ⟨fun hd => hno ?_, fun name ha => hna name ?_⟩
  · exact ((hasDuplicate_perm hperm).2 hd).of_sublist hpart
  · exact ((ambiguous_perm hperm).2 ha).of_subset hpart.subset

/-- The three ways a selection can end, said of the descriptors in the list. -/
theorem select_cases (descriptors : List Descriptor) (active : VersionTag) :
    (HasDuplicate descriptors ∧
      ∃ name tag, (select descriptors active).result = .error (.duplicateName name tag)) ∨
    (¬HasDuplicate descriptors ∧ (∃ name, Ambiguous descriptors active name) ∧
      ∃ name, (select descriptors active).result = .error (.ambiguousName name active)) ∨
    (¬HasDuplicate descriptors ∧ (∀ name, ¬Ambiguous descriptors active name) ∧
      ∃ selected, (select descriptors active).result = .ok selected) := by
  by_cases hd : HasDuplicate descriptors
  · obtain ⟨name, tag, hfirst⟩ := exists_firstDuplicate hd
    exact .inl ⟨hd, name, tag, select_duplicate hfirst⟩
  · by_cases ha : ∃ name, Ambiguous descriptors active name
    · obtain ⟨name, hname⟩ := ha
      obtain ⟨first, hfirst⟩ := exists_firstAmbiguous hname
      exact .inr (.inl ⟨hd, ⟨name, hname⟩, first, select_ambiguous_iff.2 ⟨hd, rfl, hfirst⟩⟩)
    · have hna : ∀ name, ¬Ambiguous descriptors active name := fun name h => ha ⟨name, h⟩
      exact .inr (.inr ⟨hd, hna, exists_select_ok_iff.2 ⟨hd, hna⟩⟩)

/-! ## What is selected -/

/-- The picked names with their descriptors. -/
def picks (selected : List Declaration) : List (String × Descriptor) :=
  selected.map fun c => (c.name, c.descriptor)

theorem map_fst_picks (selected : List Declaration) :
    (picks selected).map (·.1) = selected.map (·.name) := by
  rw [picks, List.map_map]
  rfl

theorem mem_picks (h : (select descriptors active).result = .ok selected) :
    (name, d) ∈ picks selected ↔
      d ∈ descriptors ∧ name ∈ d.name :: d.aliases ∧ d.IsFor active := by
  have hmem : (name, d) ∈ picks selected ↔ ∃ i, (⟨name, i, d⟩ : Declaration) ∈ selected := by
    rw [picks, List.mem_map]
    refine ⟨?_, ?_⟩
    · rintro ⟨⟨name, i, d⟩, hc, heq⟩
      cases heq
      exact ⟨i, hc⟩
    · rintro ⟨i, hc⟩
      exact ⟨_, hc, rfl⟩
  rw [hmem]
  simp only [mem_selected h, exists_and_right, exists_declares, and_assoc]

theorem nodup_picks (h : (select descriptors active).result = .ok selected) :
    (picks selected).Nodup := by
  have hnames := selected_nodup h
  rw [← map_fst_picks] at hnames
  exact hnames.of_map

/-- What is picked is a matter of the descriptors for the active version. -/
theorem picks_perm_of_iff
    (hmem : ∀ d, d.IsFor active → (d ∈ descriptors ↔ d ∈ descriptors'))
    (h : (select descriptors active).result = .ok selected)
    (h' : (select descriptors' active).result = .ok selected') :
    (picks selected).Perm (picks selected') := by
  refine (List.perm_ext_iff_of_nodup (nodup_picks h) (nodup_picks h')).2 ?_
  rintro ⟨name, d⟩
  rw [mem_picks h, mem_picks h']
  exact and_congr_left fun hd => hmem d hd.2

theorem picks_perm (hperm : descriptors.Perm descriptors')
    (h : (select descriptors active).result = .ok selected)
    (h' : (select descriptors' active).result = .ok selected') :
    (picks selected).Perm (picks selected') :=
  picks_perm_of_iff (fun _ _ => hperm.mem_iff) h h'

/-- Without the descriptors of other versions the same is picked. -/
theorem select_filter (h : (select descriptors active).result = .ok selected) :
    ∃ selected', (select (descriptors.filter (·.IsFor active)) active).result = .ok selected' ∧
      (picks selected).Perm (picks selected') := by
  obtain ⟨selected', h'⟩ := select_ok_of_subperm List.filter_sublist.subperm h
  refine ⟨selected', h', picks_perm_of_iff (fun d hfor => ?_) h h'⟩
  rw [List.mem_filter, decide_eq_true_iff, and_iff_left hfor]

/-- A selection from the same descriptors in another order ends in the same way. -/
theorem select_perm (hperm : descriptors.Perm descriptors') (active : VersionTag) :
    (∃ name tag name' tag',
      (select descriptors active).result = .error (.duplicateName name tag) ∧
      (select descriptors' active).result = .error (.duplicateName name' tag')) ∨
    (∃ name name', (select descriptors active).result = .error (.ambiguousName name active) ∧
      (select descriptors' active).result = .error (.ambiguousName name' active)) ∨
    ∃ selected selected', (select descriptors active).result = .ok selected ∧
      (select descriptors' active).result = .ok selected' ∧
      (picks selected).Perm (picks selected') := by
  obtain ⟨hd, name, tag, h⟩ | ⟨hd, ⟨n, ha⟩, name, h⟩ | ⟨hd, ha, selected, h⟩ :=
      select_cases descriptors active <;>
    rw [hasDuplicate_perm hperm] at hd <;>
    obtain ⟨hd', name', tag', h'⟩ | ⟨hd', ⟨n', ha'⟩, name', h'⟩ | ⟨hd', ha', selected', h'⟩ :=
      select_cases descriptors' active
  · exact .inl ⟨name, tag, name', tag', h, h'⟩
  · exact absurd hd hd'
  · exact absurd hd hd'
  · exact absurd hd' hd
  · exact .inr (.inl ⟨name, name', h, h'⟩)
  · exact absurd ((ambiguous_perm hperm).1 ha) (ha' n)
  · exact absurd hd' hd
  · exact absurd ((ambiguous_perm hperm).2 ha') (ha n')
  · exact .inr (.inr ⟨selected, selected', h, h', picks_perm hperm h h'⟩)

/-- What is picked from two lists together is what is picked from each: a descriptor in both lists
would be a duplicate. -/
theorem picks_append {first second : List Descriptor} {selected₁ selected₂ : List Declaration}
    (hperm : descriptors.Perm (first ++ second))
    (h : (select descriptors active).result = .ok selected)
    (h₁ : (select first active).result = .ok selected₁)
    (h₂ : (select second active).result = .ok selected₂) :
    (picks selected).Perm (picks selected₁ ++ picks selected₂) := by
  have hno : ¬HasDuplicate (first ++ second) :=
    fun hd => (select_ok_iff.1 h).1 ((hasDuplicate_perm hperm).2 hd)
  have hkeys := nodup_flatMap_keys.2 hno
  rw [List.flatMap_append, List.nodup_append] at hkeys
  have hdisjoint : ∀ p ∈ picks selected₁, ∀ q ∈ picks selected₂, p ≠ q := by
    rintro ⟨name, d⟩ hp q hq rfl
    obtain ⟨hfirst, hname, -⟩ := (mem_picks h₁).1 hp
    obtain ⟨hsecond, -, -⟩ := (mem_picks h₂).1 hq
    have hkey := Descriptor.mem_keys hname
    exact hkeys.2.2 _ (List.mem_flatMap.2 ⟨d, hfirst, hkey⟩) _
      (List.mem_flatMap.2 ⟨d, hsecond, hkey⟩) rfl
  have hnodup : (picks selected₁ ++ picks selected₂).Nodup :=
    List.nodup_append.2 ⟨nodup_picks h₁, nodup_picks h₂, hdisjoint⟩
  refine (List.perm_ext_iff_of_nodup (nodup_picks h) hnodup).2 ?_
  rintro ⟨name, d⟩
  rw [List.mem_append, mem_picks h, mem_picks h₁, mem_picks h₂, hperm.mem_iff, List.mem_append,
    or_and_right]

end MethodBinding
