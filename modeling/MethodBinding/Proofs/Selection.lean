import MethodBinding.Binding.Selection
import Mathlib.Data.List.Nodup
import Mathlib.Data.List.Induction

/-!
# Selection by version is exact

What `select` picks, and when it fails, said about the declarations alone:

* `declarations` is the sequence of all (name, place) pairs, read off the list of descriptors
  (`mem_declarations`), in the order of their names (`map_name_declarations`); a repeated (name, tag)
  pair in it is a pair of descriptors that declare one name under one tag (`nodup_keys`).
* `ofNames_ok`, `ofNames_error`: the walk over the names picks the applicable declarations of every
  name, and stops at the first name that has more than one.
* `select_exact`: a duplicate fails first, whatever tag is active; then an ambiguous name; and
  otherwise each name with a single applicable descriptor is picked, in order of first declaration.
-/

namespace MethodBinding

/-! ## First occurrences -/

/-- `eraseDups` keeps the first occurrence of each item, in order. -/
theorem eraseDups_idxOf {α : Type} [DecidableEq α] (l : List α) :
    l.eraseDups.Pairwise fun a b => l.idxOf a < l.idxOf b := by
  induction l using List.reverseRecOn with
  | nil => simp
  | append_singleton l x ih =>
    have hkeep : ∀ a ∈ l.eraseDups, (l ++ [x]).idxOf a = l.idxOf a := fun a ha =>
      List.idxOf_append_of_mem (List.mem_eraseDups.1 ha)
    rw [List.eraseDups_append, List.pairwise_append]
    refine ⟨ih.imp_of_mem fun ha hb hab => ?_, ?_, ?_⟩
    · rwa [hkeep _ ha, hkeep _ hb]
    · by_cases hx : x ∈ l <;> simp [List.removeAll, hx, List.eraseDups_cons]
    · intro a ha b hb
      rw [List.mem_eraseDups, List.removeAll, List.mem_filter, List.mem_singleton] at hb
      obtain ⟨rfl, hb⟩ := hb
      have hbl : b ∉ l := by simpa using hb
      rw [hkeep a ha, List.idxOf_append_of_notMem hbl]
      have := List.idxOf_lt_length_of_mem (List.mem_eraseDups.1 ha)
      omega

/-! ## Declarations -/

variable {descriptors : List Descriptor} {active : VersionTag}

/-- The descriptor at place `i` is `d` and declares `name`. -/
def Declares (descriptors : List Descriptor) (name : String) (i : Nat) (d : Descriptor) : Prop :=
  descriptors[i]? = some d ∧ name ∈ d.name :: d.aliases

theorem mem_declarations {c : Declaration} :
    c ∈ declarations descriptors ↔ Declares descriptors c.name c.index c.descriptor := by
  simp only [declarations, List.mem_flatMap, List.mem_map, Declares]
  refine ⟨?_, ?_⟩
  · rintro ⟨⟨d, i⟩, hd, n, hn, rfl⟩
    exact ⟨List.mem_zipIdx_iff_getElem?.1 hd, hn⟩
  · rintro ⟨hd, hn⟩
    exact ⟨(c.descriptor, c.index), List.mem_zipIdx_iff_getElem?.2 hd, c.name, hn, rfl⟩

theorem nodup_declarations (descriptors : List Descriptor) : (declarations descriptors).Nodup := by
  rw [declarations, List.nodup_flatMap]
  refine ⟨?_, ?_⟩
  · rintro ⟨d, i⟩ -
    exact List.Nodup.map (fun a b h => (Declaration.mk.inj h).1) d.distinct
  · -- pieces of different places share no declaration
    have hidx : (descriptors.zipIdx.map Prod.snd).Nodup := by
      rw [List.zipIdx_map_snd]
      exact List.nodup_range'
    refine (List.pairwise_map.1 hidx).imp fun {p q} hne c hp hq => hne ?_
    obtain ⟨n, -, rfl⟩ := List.mem_map.1 hp
    obtain ⟨m, -, he⟩ := List.mem_map.1 hq
    exact (Declaration.mk.inj he).2.1.symm

/-- Two descriptors declare one name under one tag, or both without a tag. -/
def HasDuplicate (descriptors : List Descriptor) : Prop :=
  ∃ name i j d e, i ≠ j ∧ Declares descriptors name i d ∧ Declares descriptors name j e ∧
    d.tag = e.tag

/-- What a declaration is compared by: its name and the tag of its descriptor. -/
def Declaration.key (c : Declaration) : String × Option VersionTag := (c.name, c.descriptor.tag)

/-- The names of a descriptor, each with its tag. -/
def Descriptor.keys (d : Descriptor) : List (String × Option VersionTag) :=
  (d.name :: d.aliases).map fun name => (name, d.tag)

theorem map_key_declarations (descriptors : List Descriptor) :
    (declarations descriptors).map Declaration.key = descriptors.flatMap Descriptor.keys := by
  have hkeys : (declarations descriptors).map Declaration.key =
      descriptors.zipIdx.flatMap fun p => p.1.keys := by
    simp only [declarations, List.map_flatMap, List.map_map]
    rfl
  rw [hkeys, ← List.flatMap_map Prod.fst Descriptor.keys, List.zipIdx_map_fst]

theorem nodup_keys : ((declarations descriptors).map Declaration.key).Nodup ↔
    ¬HasDuplicate descriptors := by
  refine ⟨?_, ?_⟩
  · rintro hnd ⟨name, i, j, d, e, hij, hd, he, ht⟩
    have hb : (⟨name, i, d⟩ : Declaration) ∈ declarations descriptors := mem_declarations.2 hd
    have hc : (⟨name, j, e⟩ : Declaration) ∈ declarations descriptors := mem_declarations.2 he
    have := List.inj_on_of_nodup_map hnd hb hc (by simp [Declaration.key, ht])
    exact hij (Declaration.mk.inj this).2.1
  · intro hno
    refine (nodup_declarations descriptors).map_on fun b hb c hc hk => ?_
    obtain ⟨hn, ht⟩ := Prod.mk.inj hk
    have hb' := mem_declarations.1 hb
    have hc' := mem_declarations.1 hc
    have hi : b.index = c.index := by
      by_contra hne
      exact hno ⟨b.name, b.index, c.index, b.descriptor, c.descriptor, hne, hb', hn ▸ hc', ht⟩
    have hd : b.descriptor = c.descriptor := Option.some.inj (by rw [← hb'.1, hi, hc'.1])
    cases b
    cases c
    simp_all

/-! ## Applicable declarations -/

/-- A descriptor is for all versions or for the active one. -/
def Descriptor.IsFor (d : Descriptor) (active : VersionTag) : Prop :=
  d.tag = none ∨ d.tag = some active

instance (d : Descriptor) (active : VersionTag) : Decidable (d.IsFor active) :=
  inferInstanceAs (Decidable (_ ∨ _))

theorem Descriptor.appliesTo_iff {d : Descriptor} : d.appliesTo active = true ↔ d.IsFor active := by
  unfold appliesTo IsFor
  cases d.tag <;> simp

theorem mem_applicable {name : String} {c : Declaration} :
    c ∈ applicable active (declarations descriptors) name ↔
      c.name = name ∧ Declares descriptors name c.index c.descriptor ∧
        c.descriptor.IsFor active := by
  simp only [applicable, List.mem_filter, mem_declarations, Bool.and_eq_true, beq_iff_eq,
    Descriptor.appliesTo_iff]
  refine ⟨?_, ?_⟩
  · rintro ⟨hd, rfl, ha⟩
    exact ⟨rfl, hd, ha⟩
  · rintro ⟨rfl, hd, ha⟩
    exact ⟨hd, rfl, ha⟩

/-- The name is declared both without a tag and under the active one. -/
def Ambiguous (descriptors : List Descriptor) (active : VersionTag) (name : String) : Prop :=
  (∃ i d, Declares descriptors name i d ∧ d.tag = none) ∧
    ∃ j e, Declares descriptors name j e ∧ e.tag = some active

theorem length_le_one_iff {α : Type} {l : List α} (h : l.Nodup) :
    l.length ≤ 1 ↔ ∀ a ∈ l, ∀ b ∈ l, a = b := by
  match l with
  | [] => simp
  | [a] => simp
  | a :: b :: l =>
    have hab : a ≠ b := fun he => (List.nodup_cons.1 h).1 (he ▸ List.mem_cons_self)
    simp only [List.length_cons]
    refine ⟨?_, ?_⟩
    · intro hl
      omega
    · intro he
      exact absurd (he a List.mem_cons_self b (List.mem_cons_of_mem _ List.mem_cons_self)) hab

theorem pairwise_of_length_le_one {α : Type} {R : α → α → Prop} {l : List α} (h : l.length ≤ 1) :
    l.Pairwise R := by
  match l, h with
  | [], _ => exact .nil
  | [a], _ => exact List.pairwise_singleton R a

/-- Without duplicates a name has two applicable declarations only if one descriptor is untagged and
the other one carries the active tag. -/
theorem length_applicable_le_one (hno : ¬HasDuplicate descriptors) {name : String} :
    (applicable active (declarations descriptors) name).length ≤ 1 ↔
      ¬Ambiguous descriptors active name := by
  rw [applicable, length_le_one_iff ((nodup_declarations descriptors).filter _), ← applicable]
  refine ⟨?_, ?_⟩
  · rintro hone ⟨⟨i, d, hd, ht⟩, j, e, he, ht'⟩
    have := hone ⟨name, i, d⟩ (mem_applicable.2 ⟨rfl, hd, .inl ht⟩) ⟨name, j, e⟩
      (mem_applicable.2 ⟨rfl, he, .inr ht'⟩)
    rw [(Declaration.mk.inj this).2.2, ht'] at ht
    cases ht
  · intro hna b hb c hc
    obtain ⟨hbn, hbd, hba⟩ := mem_applicable.1 hb
    obtain ⟨hcn, hcd, hca⟩ := mem_applicable.1 hc
    have ht : b.descriptor.tag = c.descriptor.tag := by
      rcases hba with hb' | hb' <;> rcases hca with hc' | hc'
      · rw [hb', hc']
      · exact absurd ⟨⟨_, _, hbd, hb'⟩, _, _, hcd, hc'⟩ hna
      · exact absurd ⟨⟨_, _, hcd, hc'⟩, _, _, hbd, hb'⟩ hna
      · rw [hb', hc']
    refine List.inj_on_of_nodup_map (nodup_keys.2 hno) (mem_declarations.2 (hbn ▸ hbd))
      (mem_declarations.2 (hcn ▸ hcd)) ?_
    rw [Declaration.key, Declaration.key, hbn, hcn, ht]

/-! ## The walk over the names -/

variable {declared : List Declaration}

/-- A name that is not ambiguous adds what is applicable to it. -/
theorem ofNames_cons {name : String} {names : List String}
    (h : (applicable active declared name).length ≤ 1) :
    (Selection.ofNames active declared (name :: names)).result =
      (Selection.ofNames active declared names).result.map
        (applicable active declared name ++ ·) := by
  rw [Selection.ofNames]
  generalize applicable active declared name = found at h ⊢
  rcases found with _ | ⟨c, _ | ⟨d, found⟩⟩
  · cases (Selection.ofNames active declared names).result <;> rfl
  · rfl
  · simp at h

theorem ofNames_cons_ambiguous {name : String} {names : List String}
    (h : ¬(applicable active declared name).length ≤ 1) :
    (Selection.ofNames active declared (name :: names)).result =
      .error (.ambiguousName name active) := by
  rw [Selection.ofNames]
  generalize applicable active declared name = found at h ⊢
  rcases found with _ | ⟨c, _ | ⟨d, found⟩⟩
  · simp at h
  · simp at h
  · rfl

theorem ofNames_ok {names : List String} {selected : List Declaration} :
    (Selection.ofNames active declared names).result = .ok selected ↔
      (∀ n ∈ names, (applicable active declared n).length ≤ 1) ∧
        selected = names.flatMap (applicable active declared) := by
  induction names generalizing selected with
  | nil => simp [Selection.ofNames, eq_comm]
  | cons name names ih =>
    rw [List.forall_mem_cons, List.flatMap_cons]
    by_cases h : (applicable active declared name).length ≤ 1
    · rw [ofNames_cons h]
      refine ⟨?_, ?_⟩
      · intro hr
        cases ho : (Selection.ofNames active declared names).result with
        | error e => rw [ho] at hr; cases hr
        | ok others =>
          obtain ⟨hle, rfl⟩ := ih.1 ho
          rw [ho] at hr
          cases hr
          exact ⟨⟨h, hle⟩, rfl⟩
      · rintro ⟨⟨-, hle⟩, rfl⟩
        rw [ih.2 ⟨hle, rfl⟩]
        rfl
    · rw [ofNames_cons_ambiguous h]
      refine ⟨?_, ?_⟩
      · intro hr
        cases hr
      · rintro ⟨⟨hle, -⟩, -⟩
        exact absurd hle h

theorem ofNames_error {names : List String} {error : DescriptorError} :
    (Selection.ofNames active declared names).result = .error error ↔
      ∃ before name after, names = before ++ name :: after ∧ error = .ambiguousName name active ∧
        ¬(applicable active declared name).length ≤ 1 ∧
        ∀ n ∈ before, (applicable active declared n).length ≤ 1 := by
  induction names with
  | nil => simp [Selection.ofNames]
  | cons name names ih =>
    by_cases h : (applicable active declared name).length ≤ 1
    · rw [ofNames_cons h]
      refine ⟨?_, ?_⟩
      · intro hr
        cases ho : (Selection.ofNames active declared names).result with
        | ok others => rw [ho] at hr; cases hr
        | error e =>
          rw [ho] at hr
          cases hr
          obtain ⟨before, n, after, rfl, he, hn, hb⟩ := ih.1 ho
          exact ⟨name :: before, n, after, rfl, he, hn, List.forall_mem_cons.2 ⟨h, hb⟩⟩
      · rintro ⟨before, n, after, hl, he, hn, hb⟩
        cases before with
        | nil =>
          obtain ⟨rfl, -⟩ := List.cons.inj hl
          exact absurd h hn
        | cons m before =>
          obtain ⟨rfl, rfl⟩ := List.cons.inj hl
          rw [ih.2 ⟨before, n, after, rfl, he, hn, (List.forall_mem_cons.1 hb).2⟩]
          rfl
    · rw [ofNames_cons_ambiguous h]
      refine ⟨?_, ?_⟩
      · intro hr
        cases hr
        exact ⟨[], name, names, rfl, rfl, h, by simp⟩
      · rintro ⟨before, n, after, hl, rfl, -, hb⟩
        cases before with
        | nil =>
          obtain ⟨rfl, -⟩ := List.cons.inj hl
          rfl
        | cons m before =>
          obtain ⟨rfl, -⟩ := List.cons.inj hl
          exact absurd (List.forall_mem_cons.1 hb).1 h

/-! ## The selection -/

/-- The names in order of declaration, with repetitions. -/
def declaredNames (descriptors : List Descriptor) : List String :=
  descriptors.flatMap fun d => d.name :: d.aliases

theorem map_name_declarations (descriptors : List Descriptor) :
    (declarations descriptors).map (·.name) = declaredNames descriptors := by
  have hnames : (declarations descriptors).map (·.name) =
      descriptors.zipIdx.flatMap fun p => p.1.names := by
    simp [declarations, List.map_flatMap, Function.comp_def]
  rw [hnames, ← List.flatMap_map Prod.fst Descriptor.names, List.zipIdx_map_fst]
  rfl

/-- Where a name is declared first. -/
def firstPlace (descriptors : List Descriptor) (name : String) : Nat :=
  (declaredNames descriptors).idxOf name

theorem mem_declaredNames {name : String} :
    name ∈ declaredNames descriptors ↔ ∃ i d, Declares descriptors name i d := by
  rw [← map_name_declarations, List.mem_map]
  refine ⟨?_, ?_⟩
  · rintro ⟨c, hc, rfl⟩
    exact ⟨_, _, mem_declarations.1 hc⟩
  · rintro ⟨i, d, h⟩
    exact ⟨⟨name, i, d⟩, mem_declarations.2 h, rfl⟩

/-- The first declaration whose name was already declared under the same tag has this name and this
tag. -/
def FirstDuplicate (descriptors : List Descriptor) (name : String) (tag : Option VersionTag) :
    Prop :=
  ∃ before after, descriptors.flatMap Descriptor.keys = before ++ (name, tag) :: after ∧
    (name, tag) ∈ before ∧ before.Nodup

theorem firstRepeat?_keys {name : String} {tag : Option VersionTag} :
    firstRepeat? ((declarations descriptors).map Declaration.key) = some (name, tag) ↔
      FirstDuplicate descriptors name tag := by
  rw [map_key_declarations, firstRepeat?_eq_some_iff]
  rfl

theorem select_duplicate {name : String} {tag : Option VersionTag}
    (h : FirstDuplicate descriptors name tag) :
    (select descriptors active).result = .error (.duplicateName name tag) := by
  have hr := firstRepeat?_keys.2 h
  unfold Declaration.key at hr
  simp only [select, hr]

theorem select_distinct (hno : ¬HasDuplicate descriptors) :
    select descriptors active =
      .ofNames active (declarations descriptors) (declaredNames descriptors).eraseDups := by
  have hr := firstRepeat?_eq_none_iff.2 (nodup_keys.2 hno)
  unfold Declaration.key at hr
  simp only [select, hr, map_name_declarations]

theorem exists_firstDuplicate (h : HasDuplicate descriptors) :
    ∃ name tag, FirstDuplicate descriptors name tag := by
  cases hr : firstRepeat? ((declarations descriptors).map Declaration.key) with
  | none => exact absurd h (nodup_keys.1 (firstRepeat?_eq_none_iff.1 hr))
  | some p => exact ⟨p.1, p.2, firstRepeat?_keys.1 hr⟩

theorem FirstDuplicate.hasDuplicate {name : String} {tag : Option VersionTag}
    (h : FirstDuplicate descriptors name tag) : HasDuplicate descriptors := by
  by_contra hno
  have := firstRepeat?_eq_none_iff.2 (nodup_keys.2 hno)
  rw [firstRepeat?_keys.2 h] at this
  cases this

theorem select_duplicate_iff {name : String} {tag : Option VersionTag} :
    (select descriptors active).result = .error (.duplicateName name tag) ↔
      FirstDuplicate descriptors name tag := by
  refine ⟨fun h => ?_, select_duplicate⟩
  by_cases hd : HasDuplicate descriptors
  · obtain ⟨name', tag', hf⟩ := exists_firstDuplicate hd
    rw [select_duplicate hf] at h
    cases h
    exact hf
  · rw [select_distinct hd] at h
    obtain ⟨_, _, _, _, he, -⟩ := ofNames_error.1 h
    cases he

/-- The ambiguous name whose first declaration comes first. -/
def FirstAmbiguous (descriptors : List Descriptor) (active : VersionTag) (name : String) : Prop :=
  Ambiguous descriptors active name ∧
    ∀ other, Ambiguous descriptors active other →
      firstPlace descriptors name ≤ firstPlace descriptors other

theorem Ambiguous.mem_names {name : String} (h : Ambiguous descriptors active name) :
    name ∈ (declaredNames descriptors).eraseDups := by
  obtain ⟨⟨i, d, hd, -⟩, -⟩ := h
  exact List.mem_eraseDups.2 (mem_declaredNames.2 ⟨i, d, hd⟩)

/-- Among the names in order of first declaration, the first ambiguous one comes after names that
are not ambiguous. -/
theorem firstAmbiguous_iff {name : String} :
    FirstAmbiguous descriptors active name ↔
      ∃ before after, (declaredNames descriptors).eraseDups = before ++ name :: after ∧
        Ambiguous descriptors active name ∧ ∀ n ∈ before, ¬Ambiguous descriptors active n := by
  have hord := eraseDups_idxOf (declaredNames descriptors)
  refine ⟨?_, ?_⟩
  · rintro ⟨ha, hfirst⟩
    obtain ⟨before, after, hl⟩ := List.append_of_mem ha.mem_names
    refine ⟨before, after, hl, ha, fun n hn han => ?_⟩
    rw [hl] at hord
    have hlt := (List.pairwise_append.1 hord).2.2 n hn name List.mem_cons_self
    exact absurd (hfirst n han) (Nat.not_le.2 hlt)
  · rintro ⟨before, after, hl, ha, hb⟩
    refine ⟨ha, fun other ho => ?_⟩
    have hm := ho.mem_names
    rw [hl] at hm hord
    rcases List.mem_append.1 hm with hm | hm
    · exact absurd ho (hb other hm)
    rcases List.mem_cons.1 hm with rfl | hm
    · exact Nat.le_refl _
    · have := List.pairwise_cons.1 (List.pairwise_append.1 hord).2.1
      exact Nat.le_of_lt (this.1 other hm)

theorem select_ambiguous_iff {name : String} {tag : VersionTag} :
    (select descriptors active).result = .error (.ambiguousName name tag) ↔
      ¬HasDuplicate descriptors ∧ tag = active ∧ FirstAmbiguous descriptors active name := by
  by_cases hd : HasDuplicate descriptors
  · obtain ⟨name', tag', hf⟩ := exists_firstDuplicate hd
    simp [select_duplicate hf, hd]
  · rw [select_distinct hd, ofNames_error, firstAmbiguous_iff]
    simp only [length_applicable_le_one hd, not_not]
    refine ⟨?_, ?_⟩
    · rintro ⟨before, n, after, hl, he, ha, hb⟩
      cases he
      exact ⟨hd, rfl, before, after, hl, ha, hb⟩
    · rintro ⟨-, rfl, before, after, hl, ha, hb⟩
      exact ⟨before, name, after, hl, rfl, ha, hb⟩

theorem select_ok_iff {selected : List Declaration} :
    (select descriptors active).result = .ok selected ↔
      ¬HasDuplicate descriptors ∧ (∀ name, ¬Ambiguous descriptors active name) ∧
        selected = (declaredNames descriptors).eraseDups.flatMap
          (applicable active (declarations descriptors)) := by
  by_cases hd : HasDuplicate descriptors
  · obtain ⟨name', tag', hf⟩ := exists_firstDuplicate hd
    simp [select_duplicate hf, hd]
  · rw [select_distinct hd, ofNames_ok]
    simp only [length_applicable_le_one hd, hd, not_false_eq_true, true_and]
    exact and_congr_left fun _ => ⟨fun h n hn => h n hn.mem_names hn, fun h n _ => h n⟩

/-- A list of declarations picks exactly the names with a single applicable descriptor. -/
structure SelectsExactly (descriptors : List Descriptor) (active : VersionTag)
    (selected : List Declaration) : Prop where
  distinct : (selected.map (·.name)).Nodup
  picks : ∀ name i, (∃ c ∈ selected, c.name = name ∧ c.index = i) ↔
    (∃ d, Declares descriptors name i d ∧ d.IsFor active) ∧
      ∀ j e, Declares descriptors name j e → e.IsFor active → j = i
  ordered : (selected.map (·.name)).Pairwise fun a b =>
    firstPlace descriptors a < firstPlace descriptors b
  described : ∀ c ∈ selected, Declares descriptors c.name c.index c.descriptor

theorem mem_selected {selected : List Declaration}
    (h : (select descriptors active).result = .ok selected) {c : Declaration} :
    c ∈ selected ↔
      Declares descriptors c.name c.index c.descriptor ∧ c.descriptor.IsFor active := by
  obtain ⟨-, -, rfl⟩ := select_ok_iff.1 h
  simp only [List.mem_flatMap, List.mem_eraseDups, mem_applicable]
  refine ⟨?_, ?_⟩
  · rintro ⟨n, -, rfl, hd, ha⟩
    exact ⟨hd, ha⟩
  · rintro ⟨hd, ha⟩
    exact ⟨c.name, mem_declaredNames.2 ⟨_, _, hd⟩, rfl, hd, ha⟩

/-- The picked names stand in order of first declaration. -/
theorem selected_ordered {selected : List Declaration}
    (h : (select descriptors active).result = .ok selected) :
    (selected.map (·.name)).Pairwise fun a b =>
      firstPlace descriptors a < firstPlace descriptors b := by
  obtain ⟨hno, hna, rfl⟩ := select_ok_iff.1 h
  rw [List.pairwise_map, List.pairwise_flatMap]
  refine ⟨?_, ?_⟩
  · intro n _
    exact pairwise_of_length_le_one ((length_applicable_le_one hno).2 (hna n))
  · refine (eraseDups_idxOf (declaredNames descriptors)).imp fun hlt b hb c hc => ?_
    rw [(mem_applicable.1 hb).1, (mem_applicable.1 hc).1]
    exact hlt

theorem selected_nodup {selected : List Declaration}
    (h : (select descriptors active).result = .ok selected) : (selected.map (·.name)).Nodup :=
  (selected_ordered h).imp fun hlt he => absurd (he ▸ hlt) (Nat.lt_irrefl _)

/-- After a selection a name has one applicable descriptor at most. -/
theorem applicable_unique {selected : List Declaration}
    (h : (select descriptors active).result = .ok selected) {name : String} {i j : Nat}
    {d e : Descriptor} (hd : Declares descriptors name i d) (hda : d.IsFor active)
    (he : Declares descriptors name j e) (hea : e.IsFor active) : i = j := by
  have hb : (⟨name, i, d⟩ : Declaration) ∈ selected := (mem_selected h).2 ⟨hd, hda⟩
  have hc : (⟨name, j, e⟩ : Declaration) ∈ selected := (mem_selected h).2 ⟨he, hea⟩
  exact (Declaration.mk.inj (List.inj_on_of_nodup_map (selected_nodup h) hb hc rfl)).2.1

theorem selectsExactly_of_ok {selected : List Declaration}
    (h : (select descriptors active).result = .ok selected) :
    SelectsExactly descriptors active selected where
  distinct := selected_nodup h
  ordered := selected_ordered h
  described _ hc := ((mem_selected h).1 hc).1
  picks name i := by
    refine ⟨?_, ?_⟩
    · rintro ⟨c, hc, rfl, rfl⟩
      obtain ⟨hd, ha⟩ := (mem_selected h).1 hc
      exact ⟨⟨_, hd, ha⟩, fun j e he hea => applicable_unique h he hea hd ha⟩
    · rintro ⟨⟨d, hd, ha⟩, -⟩
      exact ⟨⟨name, i, d⟩, (mem_selected h).2 ⟨hd, ha⟩, rfl, rfl⟩

/-- An ambiguous name that comes first exists if any does. -/
theorem exists_firstAmbiguous {name : String} (h : Ambiguous descriptors active name) :
    ∃ first, FirstAmbiguous descriptors active first := by
  induction hk : firstPlace descriptors name using Nat.strongRecOn generalizing name with
  | ind k ih =>
    by_cases hless : ∃ other, Ambiguous descriptors active other ∧ firstPlace descriptors other < k
    · obtain ⟨other, ho, hlt⟩ := hless
      exact ih _ hlt ho rfl
    · refine ⟨name, h, fun other ho => ?_⟩
      rw [hk]
      exact Nat.not_lt.1 fun hlt => hless ⟨other, ho, hlt⟩

/-- **Selection is exact.** A duplicate fails whatever tag is active, at the first declaration whose
name was already declared under the same tag; otherwise the first ambiguous name fails; otherwise
each name with a single applicable descriptor is picked, in order of first declaration. -/
theorem select_exact (descriptors : List Descriptor) (active : VersionTag) :
    (∀ name tag, (select descriptors active).result = .error (.duplicateName name tag) ↔
      FirstDuplicate descriptors name tag) ∧
    ((∃ name tag, (select descriptors active).result = .error (.duplicateName name tag)) ↔
      HasDuplicate descriptors) ∧
    (∀ name tag, (select descriptors active).result = .error (.ambiguousName name tag) ↔
      ¬HasDuplicate descriptors ∧ tag = active ∧ FirstAmbiguous descriptors active name) ∧
    ((∃ name tag, (select descriptors active).result = .error (.ambiguousName name tag)) ↔
      ¬HasDuplicate descriptors ∧ ∃ name, Ambiguous descriptors active name) ∧
    ((∃ selected, (select descriptors active).result = .ok selected) ↔
      ¬HasDuplicate descriptors ∧ ∀ name, ¬Ambiguous descriptors active name) ∧
    ∀ selected, (select descriptors active).result = .ok selected →
      SelectsExactly descriptors active selected := by
  refine ⟨fun _ _ => select_duplicate_iff, ?_, fun _ _ => select_ambiguous_iff, ?_, ?_,
    fun _ => selectsExactly_of_ok⟩
  · refine ⟨?_, ?_⟩
    · rintro ⟨name, tag, h⟩
      exact (select_duplicate_iff.1 h).hasDuplicate
    · intro h
      obtain ⟨name, tag, hf⟩ := exists_firstDuplicate h
      exact ⟨name, tag, select_duplicate_iff.2 hf⟩
  · refine ⟨?_, ?_⟩
    · rintro ⟨name, tag, h⟩
      obtain ⟨hno, -, ha⟩ := select_ambiguous_iff.1 h
      exact ⟨hno, name, ha.1⟩
    · rintro ⟨hno, name, ha⟩
      obtain ⟨first, hf⟩ := exists_firstAmbiguous ha
      exact ⟨first, active, select_ambiguous_iff.2 ⟨hno, rfl, hf⟩⟩
  · refine ⟨?_, ?_⟩
    · rintro ⟨selected, h⟩
      obtain ⟨hno, hna, -⟩ := select_ok_iff.1 h
      exact ⟨hno, hna⟩
    · rintro ⟨hno, hna⟩
      exact ⟨_, select_ok_iff.2 ⟨hno, hna, rfl⟩⟩

end MethodBinding
