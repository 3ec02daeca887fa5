import MethodBinding.Proofs.Space.Tower
import Mathlib.Data.List.Nodup
import Mathlib.Logic.Relation

/-!
# Superclass chains

The superclass chain of a number (`Space.Chain`) leads from a module to its superclass and on, until
there is none or a number has no module. No number has two chains (`Chain.unique`), and no chain
comes back to a module, so it is at most as long as the registry (`Chain.length_le`). Hence a search
sees the whole of it: it is the first hit along the chain (`Chain.search`).

A number from which the superclass links do not lead into a cycle (`Space.NoReturn`) has a chain
(`NoReturn.exists_chain`). If they do not run in cycles at all (`Space.Acyclic`), every number has
one.
-/

namespace MethodBinding

/-- The class that a class inherits from. -/
def Outline.superclass? (o : Outline) : Option ModuleId :=
  match o.kind with
  | .ofClass superclass => superclass
  | _ => none

namespace Space

variable {s s' : Space} {id other superclass : ModuleId} {chain rest : List ModuleId}

/-! ## Superclass links -/

/-- The class that the class of this number inherits from. -/
def superclass? (s : Space) (id : ModuleId) : Option ModuleId :=
  (s.outline? id).bind (·.superclass?)

theorem superclass?_of_module? {m : Module} (h : s.module? id = some m) :
    s.superclass? id = m.superclass? := by
  simp only [superclass?, outline?, h, Option.map_some, Option.bind_some]
  rfl

theorem module?_isSome_of_superclass? (h : s.superclass? id = some superclass) :
    (s.module? id).isSome = true := by
  obtain ⟨o, ho, -⟩ := Option.bind_eq_some_iff.1 h
  rw [← isSome_outline?, ho]
  rfl

theorem superclass?_congr (h : s'.outline? id = s.outline? id) :
    s'.superclass? id = s.superclass? id := by
  rw [superclass?, superclass?, h]

theorem superclass?_define (s : Space) (name : String) (kind : ModuleKind) (id : ModuleId) :
    (s.define name kind).superclass? id =
      if id = s.nextId then (Outline.mk name kind none).superclass? else s.superclass? id := by
  rw [superclass?, outline?_define]
  split <;> rfl

/-- A new singleton class inherits from nothing, and no other module changes its superclass. -/
theorem superclass?_singletonOf (s : Space) (id other : ModuleId) :
    (s.singletonOf id).2.superclass? other = s.superclass? other := by
  obtain ⟨-, hr⟩ | ⟨_, -, hr⟩ | ⟨o, ho, -, hr⟩ := s.singletonOf_cases id <;> rw [hr]
  simp only [superclass?, outline?_attach ho]
  split
  · next hnext =>
    rw [hnext, outline?_nextId]
    rfl
  split
  · next hid =>
    rw [hid, ho]
    rfl
  · rfl

/-- A class and the class that it inherits from. -/
def Inherits (s : Space) (id superclass : ModuleId) : Prop := s.superclass? id = some superclass

/-- No class inherits from itself, be it by way of others. -/
def Acyclic (s : Space) : Prop := ∀ id, ¬Relation.TransGen s.Inherits id id

theorem Acyclic.congr (h : s.Acyclic) (hs : ∀ id, s'.superclass? id = s.superclass? id) :
    s'.Acyclic := by
  have hsame : s'.Inherits = s.Inherits := by
    funext id superclass
    rw [Inherits, Inherits, hs]
  rw [Acyclic, hsame]
  exact h

/-- Links that all lead down by some rank do not run in cycles. -/
theorem acyclic_of_rank (rank : ModuleId → Nat)
    (h : ∀ id superclass, s.Inherits id superclass → rank superclass < rank id) : s.Acyclic := by
  have hpath : ∀ id other, Relation.TransGen s.Inherits id other → rank other < rank id := by
    intro id other hp
    induction hp with
    | single hl => exact h _ _ hl
    | tail _ hl ih => exact Nat.lt_trans (h _ _ hl) ih
  exact fun id hp => Nat.lt_irrefl _ (hpath id id hp)

/-! ## Chains -/

/-- The superclass chain from a number on. -/
inductive Chain (s : Space) : ModuleId → List ModuleId → Prop where
  | unknown {id : ModuleId} (h : s.module? id = none) : Chain s id []
  | last {id : ModuleId} (hreg : (s.module? id).isSome = true) (h : s.superclass? id = none) :
    Chain s id [id]
  | link {id superclass : ModuleId} {rest : List ModuleId} (h : s.superclass? id = some superclass)
    (hrest : Chain s superclass rest) : Chain s id (id :: rest)

theorem Chain.unique (h : s.Chain id chain) {chain' : List ModuleId} (h' : s.Chain id chain') :
    chain' = chain := by
  induction h generalizing chain' with
  | unknown hnone =>
    cases h' with
    | unknown => rfl
    | last hreg => simp [hnone] at hreg
    | link hl => simpa [hnone] using module?_isSome_of_superclass? hl
  | last hreg hno =>
    cases h' with
    | unknown hnone => simp [hnone] at hreg
    | last => rfl
    | link hl => simp [hno] at hl
  | link hl _ ih =>
    cases h' with
    | unknown hnone => simpa [hnone] using module?_isSome_of_superclass? hl
    | last _ hno => simp [hno] at hl
    | link hl' hrest' =>
      rw [hl] at hl'
      cases hl'
      rw [ih hrest']

theorem Chain.isSome_of_mem (h : s.Chain id chain) (hm : other ∈ chain) :
    (s.module? other).isSome = true := by
  induction h with
  | unknown => cases hm
  | last hreg =>
    cases List.mem_singleton.1 hm
    exact hreg
  | link hl _ ih =>
    rcases List.mem_cons.1 hm with rfl | hm
    · exact module?_isSome_of_superclass? hl
    · exact ih hm

/-- What follows on a chain is a chain. -/
theorem Chain.drop (h : s.Chain id chain) {before after : List ModuleId}
    (hc : chain = before ++ other :: after) : s.Chain other (other :: after) := by
  induction h generalizing before with
  | unknown => simp at hc
  | last hreg hno =>
    cases before with
    | nil =>
      cases hc
      exact .last hreg hno
    | cons _ before => simp at hc
  | link hl hrest ih =>
    cases before with
    | nil =>
      cases hc
      exact .link hl hrest
    | cons _ before => exact ih (List.cons.inj hc).2

/-- A chain does not come back to a module: it would never end. -/
theorem Chain.nodup (h : s.Chain id chain) : chain.Nodup := by
  induction h with
  | unknown => exact List.nodup_nil
  | last => exact List.nodup_singleton _
  | @link id superclass rest hl hrest ih =>
    refine List.nodup_cons.2 ⟨fun hm => ?_, ih⟩
    obtain ⟨before, after, rfl⟩ := List.append_of_mem hm
    have hagain := (Chain.link hl hrest).unique (hrest.drop rfl)
    have hlen := congrArg List.length hagain
    simp only [List.length_cons, List.length_append] at hlen
    omega

/-- There are no more registered numbers than modules. -/
theorem length_le_of_nodup {ids : List ModuleId} (hnd : ids.Nodup)
    (hreg : ∀ id ∈ ids, (s.module? id).isSome = true) : ids.length ≤ s.modules.length := by
  have hinj : (ids.map (·.index)).Nodup := by
    refine hnd.map fun a b hab => ?_
    cases a
    cases b
    exact congrArg ModuleId.mk hab
  have hsub : ids.map (·.index) ⊆ List.range s.modules.length := by
    intro index hindex
    obtain ⟨id, hid, rfl⟩ := List.mem_map.1 hindex
    exact List.mem_range.2 (module?_isSome.1 (hreg id hid))
  simpa using hinj.length_le_of_subset hsub

theorem Chain.length_le (h : s.Chain id chain) : chain.length ≤ s.modules.length :=
  length_le_of_nodup h.nodup fun _ hm => h.isSome_of_mem hm

/-! ## Searching along a chain -/

theorem Chain.ancestors (h : s.Chain id chain) {count : Nat} (hle : chain.length ≤ count) :
    s.ancestors id count = chain.filterMap s.module? := by
  induction h generalizing count with
  | unknown hnone =>
    cases count with
    | zero => rfl
    | succ count => simp only [Space.ancestors, hnone, List.filterMap_nil]
  | last hreg hno =>
    obtain ⟨m, hm⟩ := Option.isSome_iff_exists.1 hreg
    obtain ⟨count, rfl⟩ : ∃ n, count = n + 1 := ⟨count - 1, by simp at hle; omega⟩
    rw [superclass?_of_module? hm] at hno
    simp only [Space.ancestors, hm, hno, List.filterMap_cons, List.filterMap_nil]
  | link hl hrest ih =>
    obtain ⟨m, hm⟩ := Option.isSome_iff_exists.1 (module?_isSome_of_superclass? hl)
    obtain ⟨count, rfl⟩ : ∃ n, count = n + 1 := ⟨count - 1, by simp at hle; omega⟩
    rw [superclass?_of_module? hm] at hl
    simp only [Space.ancestors, hm, hl, List.filterMap_cons]
    rw [ih (by simpa using hle)]

/-- The tables of the modules on a list, one after the other. -/
theorem findSome?_modules (s : Space) (ids : List ModuleId) (name : String) :
    (ids.filterMap s.module?).findSome? (·.methods.find? name) =
      ids.findSome? (s.lookup? · name) := by
  induction ids with
  | nil => rfl
  | cons id ids ih =>
    rw [List.findSome?_cons, ← ih]
    cases hm : s.module? id with
    | none => simp [lookup?, hm]
    | some m => simp [lookup?, hm, List.findSome?_cons]

/-- A search is the first hit along the chain. -/
theorem Chain.search (h : s.Chain id chain) (name : String) :
    s.search id name = chain.findSome? (s.lookup? · name) := by
  rw [Space.search, h.ancestors h.length_le, findSome?_modules]

/-! ## Chains without cycles -/

/-- No class that the links from a number lead to inherits from itself. -/
def NoReturn (s : Space) (id : ModuleId) : Prop :=
  ∀ other, Relation.ReflTransGen s.Inherits id other → ¬Relation.TransGen s.Inherits other other

theorem Acyclic.noReturn (ha : s.Acyclic) (id : ModuleId) : s.NoReturn id :=
  fun other _ => ha other

/-- If the modules `seen` lead to a number, following the links from there ends, as it visits one
module more with each step. -/
theorem NoReturn.exists_chain_of_seen (h : s.NoReturn id) {left : Nat} {seen : List ModuleId}
    (hother : Relation.ReflTransGen s.Inherits id other) (hnd : seen.Nodup)
    (hseen : ∀ earlier ∈ seen,
      (s.module? earlier).isSome = true ∧ Relation.TransGen s.Inherits earlier other)
    (hleft : s.modules.length ≤ seen.length + left) : ∃ chain, s.Chain other chain := by
  have hfresh : other ∉ seen := fun hmem => h other hother (hseen other hmem).2
  induction left generalizing other seen with
  | zero =>
    refine ⟨[], .unknown (Option.eq_none_iff_forall_ne_some.2 fun m hm => ?_)⟩
    have hreg : ∀ a ∈ other :: seen, (s.module? a).isSome = true := by
      intro a hmem
      rcases List.mem_cons.1 hmem with rfl | hmem
      · rw [hm]
        rfl
      · exact (hseen a hmem).1
    have hlen := length_le_of_nodup (List.nodup_cons.2 ⟨hfresh, hnd⟩) hreg
    simp only [List.length_cons] at hlen
    omega
  | succ left ih =>
    cases hl : s.superclass? other with
    | none =>
      cases hm : s.module? other with
      | none => exact ⟨[], .unknown hm⟩
      | some m => exact ⟨[other], .last (by rw [hm]; rfl) hl⟩
    | some superclass =>
      have hseen' : ∀ earlier ∈ other :: seen, (s.module? earlier).isSome = true ∧
          Relation.TransGen s.Inherits earlier superclass := by
        intro earlier hmem
        rcases List.mem_cons.1 hmem with rfl | hmem
        · exact ⟨module?_isSome_of_superclass? hl, .single hl⟩
        · exact ⟨(hseen earlier hmem).1, (hseen earlier hmem).2.tail hl⟩
      have hnext := hother.tail hl
      obtain ⟨rest, hrest⟩ := ih hnext (List.nodup_cons.2 ⟨hfresh, hnd⟩) hseen'
        (by simp only [List.length_cons]; omega)
        fun hmem => h superclass hnext (hseen' superclass hmem).2
      exact ⟨other :: rest, .link hl hrest⟩

theorem NoReturn.exists_chain (h : s.NoReturn id) : ∃ chain, s.Chain id chain := by
  have hleft : s.modules.length ≤ ([] : List ModuleId).length + s.modules.length := by simp
  exact h.exists_chain_of_seen .refl List.nodup_nil (fun _ h => absurd h List.not_mem_nil) hleft

theorem Acyclic.exists_chain (ha : s.Acyclic) (id : ModuleId) : ∃ chain, s.Chain id chain :=
  (ha.noReturn id).exists_chain

/-- The chain before some modules without superclasses were added: it may have ended at one of their
numbers, and has the same tables otherwise. -/
theorem Chain.before (h : s'.Chain id chain)
    (hsup : ∀ id, s'.superclass? id = s.superclass? id)
    (hreg : ∀ id, (s.module? id).isSome = true → (s'.module? id).isSome = true) :
    ∃ older, s.Chain id older ∧
      ∀ name, older.findSome? (s.lookup? · name) = chain.findSome? (s.lookup? · name) := by
  induction h with
  | @unknown id hnone =>
    have : s.module? id = none := by
      refine Option.not_isSome_iff_eq_none.1 fun hs => ?_
      simpa [hnone] using hreg id hs
    exact ⟨[], .unknown this, fun _ => rfl⟩
  | @last id _ hno =>
    rw [hsup] at hno
    cases hm : s.module? id with
    | none => exact ⟨[], .unknown hm, fun name => by simp [lookup?, hm]⟩
    | some m => exact ⟨[id], .last (by rw [hm]; rfl) hno, fun _ => rfl⟩
  | @link id superclass rest hl _ ih =>
    rw [hsup] at hl
    obtain ⟨older, holder, hsame⟩ := ih
    exact ⟨id :: older, .link hl holder, fun name => by
      rw [List.findSome?_cons, List.findSome?_cons, hsame]⟩

end Space

end MethodBinding
