import MethodBinding.Proofs.Binding.Written

/-!
# Adapters of a pass

A pass makes one adapter for each descriptor that it selects a name of, and takes their identities
from the supply of the space, in the order in which the descriptors are first mentioned. All rows of
a descriptor have its adapter (`Tower.identity_of_answers`), so two entries of a pass share an
adapter exactly if they are of one descriptor (`Tower.sharesAdapter_iff`). The supply is used up by
that: what a later pass takes from it is new (`Tower.identity_lt_next`).

`BaseRows.walk` plans the declarations one after the other. It makes the base row of a descriptor
when it first meets it, and keeps it for the other names. The plan of a pass is what it makes
(`walk_eq`).
-/

namespace MethodBinding

variable {s : Space} {hostType : String} {descriptors : List Descriptor} {target : ModuleId}
  {selected : List Declaration} {e e' : Entry} {i i' : Nat}

/-- A pass answers the entry, for a name that the descriptor at place `i` of its list declares and
that is selected. -/
def Space.Answers (s : Space) (hostType : String) (descriptors : List Descriptor)
    (target : ModuleId) (i : Nat) (e : Entry) : Prop :=
  ∃ bound, (s.bind hostType descriptors target).result = .ok bound ∧
    ∃ b ∈ bound, (b.onModule = some e ∨ b.onSingleton = some e) ∧
      ∃ d, Declares descriptors b.name i d ∧ d.IsFor s.settings.active

/-! ## The adapter of a row -/

theorem adapter_of_owned (settings : Settings) (target singleton : ModuleId) (identity : Nat)
    (c : Declaration) {r : Row}
    (hr : ((PlannedMethod.ofDeclaration settings target identity c).owned target
        singleton).onModule = some r ∨
      ((PlannedMethod.ofDeclaration settings target identity c).owned target
        singleton).onSingleton = some r) :
    r.adapter = ⟨identity, c.descriptor.host, c.descriptor.policy⟩ := by
  simp only [PlannedMethod.owned, PlannedMethod.ofDeclaration, Option.map_map,
    Option.map_eq_some_iff] at hr
  obtain ⟨v, -, rfl⟩ | ⟨v, -, rfl⟩ := hr <;> rfl

namespace Space

/-- What is bound stands for a selected declaration, and its entries have the adapter of the
descriptor. -/
theorem Installed.adapter_of_mem {s' : Space} {singleton : ModuleId}
    {own sing : List (Option Entry)}
    (h : s.Installed s' target singleton (s.planned target selected) own sing) {b : BoundMethod}
    (hb : b ∈ boundMethods (s.planned target selected) own sing)
    (he : b.onModule = some e ∨ b.onSingleton = some e) :
    ∃ c ∈ selected, c.name = b.name ∧ e.adapter =
      ⟨s.next + (descriptorOrder selected).idxOf c.index, c.descriptor.host,
        c.descriptor.policy⟩ := by
  have hrows : b.rows ∈ (s.planned target selected).map (·.owned target singleton) := by
    rw [← map_rows_boundMethods h.own_rows h.sing_rows]
    exact List.mem_map_of_mem hb
  obtain ⟨p, hp, heq⟩ := List.mem_map.1 hrows
  obtain ⟨c, hc, rfl⟩ := List.mem_map.1 hp
  refine ⟨c, hc, congrArg PlannedMethod.name heq,
    adapter_of_owned s.settings target singleton _ c ?_⟩
  rw [heq]
  exact he.imp (fun h => by simp [BoundMethod.rows, h]) fun h => by simp [BoundMethod.rows, h]

theorem Tower.answers_of_mem (h : s.Tower) {bound : List BoundMethod}
    (hbound : (s.bind hostType descriptors target).result = .ok bound) {b : BoundMethod}
    (hb : b ∈ bound) (he : b.onModule = some e ∨ b.onSingleton = some e) :
    ∃ i, s.Answers hostType descriptors target i e := by
  obtain ⟨selected, singleton, own, sing, hsel, hinst, hparts⟩ := bind_ok h hbound
  obtain ⟨c, hc, hname, -⟩ := hinst.adapter_of_mem (hparts ▸ hb) he
  obtain ⟨hdeclares, hfor⟩ := (mem_selected hsel).1 hc
  exact ⟨c.index, bound, hbound, b, hb, he, c.descriptor, hname ▸ hdeclares, hfor⟩

/-- An entry after a pass was there before, or the pass has answered it. -/
theorem Tower.answers_or_kept (h : s.Tower) {id : ModuleId} {name : String}
    (he : (s.bind hostType descriptors target).space.lookup? id name = some e) :
    (∃ i, s.Answers hostType descriptors target i e) ∨ s.lookup? id name = some e := by
  rw [h.lookup?_bind] at he
  obtain hwritten | ⟨-, hkept⟩ := Option.or_eq_some_iff.1 he
  · refine .inl ?_
    cases hbound : (s.bind hostType descriptors target).result with
    | error error =>
      rw [PassOutcome.written?, hbound] at hwritten
      cases hwritten
    | ok bound =>
      rw [PassOutcome.written?, hbound] at hwritten
      obtain ⟨b, hfind, hentry⟩ := Option.bind_eq_some_iff.1 hwritten
      refine h.answers_of_mem hbound (List.mem_of_find?_eq_some hfind) ?_
      split at hentry
      · exact .inl hentry
      split at hentry
      · exact .inr hentry
      · cases hentry
  · exact .inr hkept

/-- The place of a descriptor in the order of first mention tells the adapter of its entries. -/
theorem Tower.identity_of_answers (h : s.Tower) (ha : s.Answers hostType descriptors target i e)
    (hsel : (select descriptors s.settings.active).result = .ok selected) :
    i ∈ descriptorOrder selected ∧
      e.adapter.identity = s.next + (descriptorOrder selected).idxOf i := by
  obtain ⟨bound, hbound, b, hb, he, d, hd, hfor⟩ := ha
  obtain ⟨_, singleton, own, sing, hsel', hinst, rfl⟩ := bind_ok h hbound
  cases hsel.symm.trans hsel'
  obtain ⟨c, hc, hname, hadapter⟩ := hinst.adapter_of_mem hb he
  -- only one descriptor for the active version declares the name
  obtain ⟨hdeclares, hcfor⟩ := (mem_selected hsel).1 hc
  have hi : c.index = i := applicable_unique hsel hdeclares hcfor (hname ▸ hd) hfor
  refine ⟨?_, by rw [hadapter, hi]⟩
  exact List.mem_eraseDups.2 (hi ▸ List.mem_map_of_mem hc)

theorem Tower.select_of_answers (h : s.Tower) (ha : s.Answers hostType descriptors target i e) :
    ∃ selected, (select descriptors s.settings.active).result = .ok selected := by
  obtain ⟨bound, hbound, -⟩ := ha
  exact ((bind_ok_iff h).1 ⟨bound, hbound⟩).2

/-- Two entries of one pass share an adapter exactly if they are of one descriptor. -/
theorem Tower.sharesAdapter_iff (h : s.Tower) (ha : s.Answers hostType descriptors target i e)
    (ha' : s.Answers hostType descriptors target i' e') :
    e.toRow.sharesAdapter e'.toRow = true ↔ i = i' := by
  obtain ⟨selected, hsel⟩ := h.select_of_answers ha
  obtain ⟨hi, hidentity⟩ := h.identity_of_answers ha hsel
  obtain ⟨-, hidentity'⟩ := h.identity_of_answers ha' hsel
  rw [Row.sharesAdapter, beq_iff_eq, hidentity, hidentity', Nat.add_left_cancel_iff,
    List.idxOf_inj hi]

/-! ## The supply of identities -/

theorem next_singletonOf (s : Space) (id : ModuleId) : (s.singletonOf id).2.next = s.next := by
  obtain ⟨-, hr⟩ | ⟨_, -, hr⟩ | ⟨o, -, -, hr⟩ := s.singletonOf_cases id <;> rw [hr]
  rfl

theorem next_le_writeRows (s : Space) (owner : ModuleId) (rows : List (Option Row)) :
    s.next ≤ (s.writeRows owner rows).2.next := le_stampRows owner s.next rows

/-- Installing takes identities for entries, and gives none back. -/
theorem next_le_installPlan (s : Space) (hostType : String) (target : ModuleId)
    (methods : List PlannedMethod) :
    s.next ≤ (s.installPlan hostType target methods).2.1.next := by
  have hsingleton := s.next_singletonOf target
  unfold installPlan
  cases s.module? target with
  | none => exact Nat.le_refl _
  | some m =>
    simp only
    split
    · exact next_le_writeRows ..
    generalize s.singletonOf target = asked at hsingleton
    obtain ⟨_ | singleton, s'⟩ := asked
    · exact Nat.le_of_eq hsingleton.symm
    simp only at hsingleton ⊢
    split
    · exact Nat.le_of_eq hsingleton.symm
    · rw [← hsingleton]
      exact Nat.le_trans (next_le_writeRows s' ..) (next_le_writeRows ..)

theorem next_add_le_bind {plan : Plan} {events : List Event}
    (hp : s.plan hostType descriptors target = (.ok plan, events)) :
    s.next + plan.adapters ≤ (s.bind hostType descriptors target).space.next := by
  have hle := next_le_installPlan { s with next := s.next + plan.adapters } hostType target
    plan.methods
  unfold bind
  simp only [hp]
  split <;> next hinstall => simpa only [hinstall] using hle

theorem next_le_bind (s : Space) (hostType : String) (descriptors : List Descriptor)
    (target : ModuleId) : s.next ≤ (s.bind hostType descriptors target).space.next := by
  cases hp : s.plan hostType descriptors target with
  | mk result events =>
    cases result with
    | error error =>
      unfold bind
      simp only [hp]
      exact Nat.le_refl _
    | ok plan => exact Nat.le_trans (Nat.le_add_right ..) (next_add_le_bind hp)

/-- The adapters of a pass are new, and the supply after the pass is above them. -/
theorem Tower.identity_lt_next (h : s.Tower) (ha : s.Answers hostType descriptors target i e) :
    s.next ≤ e.adapter.identity ∧
      e.adapter.identity < (s.bind hostType descriptors target).space.next := by
  obtain ⟨selected, hsel⟩ := h.select_of_answers ha
  obtain ⟨hi, hidentity⟩ := h.identity_of_answers ha hsel
  have hlt := List.idxOf_lt_length_of_mem hi
  obtain ⟨hm, hp⟩ | ⟨_, -, herror, -⟩ | ⟨selected', -, hsel', hp⟩ :=
    s.plan_cases hostType descriptors target
  · obtain ⟨bound, hbound, -⟩ := ha
    have hreg := ((bind_ok_iff h).1 ⟨bound, hbound⟩).1
    rw [hm] at hreg
    cases hreg
  · cases hsel.symm.trans herror
  · cases hsel.symm.trans hsel'
    have hle := next_add_le_bind hp
    simp only [Plan.ofSelected] at hle
    omega

end Space

/-! ## Planning one declaration after the other -/

/-- The base rows made so far, each under the index of its descriptor, and the next identity. -/
structure BaseRows where
  made : List (Nat × Row)
  next : Nat

namespace BaseRows

/-- The base row of a descriptor. It is made when the descriptor is met first. -/
def base (known : BaseRows) (target : ModuleId) (c : Declaration) : Row × BaseRows :=
  match known.made.lookup c.index with
  | some row => (row, known)
  | none =>
    let row := c.descriptor.baseRow target known.next
    (row, ⟨(c.index, row) :: known.made, known.next + 1⟩)

/-- Plans declarations one after the other, each from the base row of its descriptor. -/
def walk (settings : Settings) (target : ModuleId) (known : BaseRows) :
    List Declaration → List PlannedMethod × BaseRows
  | [] => ([], known)
  | c :: selected =>
    let (base, known) := known.base target c
    let row := base.withName c.name
    let placement := c.descriptor.placement settings c.name
    let (methods, known) := walk settings target known selected
    (⟨c.name, placement.onModule.map row.withVisibility,
      placement.onSingleton.map row.withVisibility⟩ :: methods, known)

variable {known : BaseRows} {first : Nat} {seen : List Declaration} {c : Declaration}

/-- After the declarations `seen`, there is one base row for each of their descriptors, with
identities from `first` on in the order of first mention. -/
structure Follows (known : BaseRows) (descriptors : List Descriptor) (target : ModuleId)
    (first : Nat) (seen : List Declaration) : Prop where
  made : ∀ i ∈ descriptorOrder seen, known.made.lookup i =
    descriptors[i]?.map (·.baseRow target (first + (descriptorOrder seen).idxOf i))
  unmade : ∀ i, i ∉ descriptorOrder seen → known.made.lookup i = none
  next : known.next = first + (descriptorOrder seen).length

theorem descriptorOrder_append (seen rest : List Declaration) :
    ∃ more, descriptorOrder (seen ++ rest) = descriptorOrder seen ++ more := by
  rw [descriptorOrder, List.map_append, List.eraseDups_append]
  exact ⟨_, rfl⟩

/-- A further declaration adds its descriptor, if that has not been mentioned. -/
theorem descriptorOrder_concat (seen : List Declaration) (c : Declaration) :
    descriptorOrder (seen ++ [c]) = if c.index ∈ descriptorOrder seen then descriptorOrder seen
      else descriptorOrder seen ++ [c.index] := by
  have hmem : c.index ∈ descriptorOrder seen ↔ c.index ∈ seen.map (·.index) := List.mem_eraseDups
  simp only [hmem]
  rw [descriptorOrder, List.map_append, List.eraseDups_append, ← descriptorOrder]
  generalize seen.map (·.index) = indices
  by_cases hseen : c.index ∈ indices <;> simp [List.removeAll, hseen, List.eraseDups_cons]

theorem idxOf_descriptorOrder {i : Nat} (h : i ∈ descriptorOrder seen) (rest : List Declaration) :
    (descriptorOrder (seen ++ rest)).idxOf i = (descriptorOrder seen).idxOf i := by
  obtain ⟨more, hmore⟩ := descriptorOrder_append seen rest
  rw [hmore, List.idxOf_append_of_mem h]

/-- One step finds or makes the base row of its descriptor. -/
theorem Follows.step (h : known.Follows descriptors target first seen)
    (hc : descriptors[c.index]? = some c.descriptor) :
    (known.base target c).1 = c.descriptor.baseRow target
        (first + (descriptorOrder (seen ++ [c])).idxOf c.index) ∧
      (known.base target c).2.Follows descriptors target first (seen ++ [c]) := by
  have horder := descriptorOrder_concat seen c
  unfold base
  by_cases hseen : c.index ∈ descriptorOrder seen
  · rw [if_pos hseen] at horder
    rw [h.made _ hseen, hc, horder]
    refine ⟨rfl, ⟨?_, ?_, ?_⟩⟩ <;> rw [horder]
    · exact h.made
    · exact h.unmade
    · exact h.next
  · rw [if_neg hseen] at horder
    have hlast : (descriptorOrder seen ++ [c.index]).idxOf c.index =
        (descriptorOrder seen).length := by
      rw [List.idxOf_append_of_notMem hseen, List.idxOf_cons_self, Nat.add_zero]
    have hlookup : ∀ {i : Nat} (row : Row), i ≠ c.index →
        List.lookup i ((c.index, row) :: known.made) = known.made.lookup i := fun row hic => by
      rw [List.lookup_cons, beq_eq_false_iff_ne.2 hic]
    rw [h.unmade _ hseen, horder, hlast, ← h.next]
    -- the new row stands under its own index, and hides no other
    refine ⟨rfl, ⟨fun i hi => ?_, fun i hi => ?_, ?_⟩⟩
    · rw [horder] at hi ⊢
      by_cases hic : i = c.index
      · rw [hic, hlast, ← h.next, hc, List.lookup_cons_self]
        rfl
      · have hold : i ∈ descriptorOrder seen := by simpa [hic] using hi
        rw [List.idxOf_append_of_mem hold, ← h.made i hold]
        exact hlookup _ hic
    · rw [horder, List.mem_append, List.mem_singleton, not_or] at hi
      exact (hlookup _ hi.2).trans (h.unmade i hi.1)
    · rw [horder, List.length_append, ← Nat.add_assoc, ← h.next]
      rfl

/-- Walking over declarations plans each of them with the place of its descriptor. -/
theorem Follows.walk (h : known.Follows descriptors target first seen)
    (hselected : ∀ c ∈ selected, descriptors[c.index]? = some c.descriptor)
    (settings : Settings) :
    (known.walk settings target selected).1 = selected.map (fun c => .ofDeclaration settings target
        (first + (descriptorOrder (seen ++ selected)).idxOf c.index) c) ∧
      (known.walk settings target selected).2.Follows descriptors target first
        (seen ++ selected) := by
  induction selected generalizing known seen with
  | nil =>
    rw [List.append_nil]
    exact ⟨rfl, h⟩
  | cons c selected ih =>
    obtain ⟨hc, hselected⟩ := List.forall_mem_cons.1 hselected
    obtain ⟨hbase, hfollows⟩ := h.step hc
    obtain ⟨hmethods, hafter⟩ := ih hfollows hselected
    have hmem : c.index ∈ descriptorOrder (seen ++ [c]) :=
      List.mem_eraseDups.2 (List.mem_map_of_mem (by simp))
    rw [List.append_assoc, List.singleton_append] at hmethods hafter
    rw [← idxOf_descriptorOrder hmem selected, List.append_assoc, List.singleton_append] at hbase
    refine ⟨?_, hafter⟩
    rw [List.map_cons, ← hmethods]
    simp only [BaseRows.walk, hbase]
    rfl

/-- **The plan of a pass is planned one declaration after the other**, with a new base row for each
descriptor that is met first. -/
theorem walk_eq {active : VersionTag}
    (hsel : (select descriptors active).result = .ok selected) (settings : Settings)
    (target : ModuleId) (first : Nat) :
    (walk settings target ⟨[], first⟩ selected).1 =
        (Plan.ofSelected settings target first selected).methods ∧
      (walk settings target ⟨[], first⟩ selected).2.next =
        first + (Plan.ofSelected settings target first selected).adapters := by
  have hstart : (⟨[], first⟩ : BaseRows).Follows descriptors target first [] :=
    ⟨fun i hi => absurd hi List.not_mem_nil, fun _ _ => rfl, rfl⟩
  obtain ⟨hmethods, hafter⟩ :=
    hstart.walk (fun c hc => ((mem_selected hsel).1 hc).1.1) settings
  exact ⟨hmethods, hafter.next⟩

end BaseRows

end MethodBinding
