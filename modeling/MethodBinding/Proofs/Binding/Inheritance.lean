import MethodBinding.Proofs.Binding.Written
import MethodBinding.Proofs.Run
import MethodBinding.Proofs.Space.Chain

/-!
# What a search sees of a pass

A search goes along the superclass chain, and a pass lays new entries over the old ones of two
tables (`Tower.lookup?_bind`). So a search sees the first new entry on its chain, unless an old one
hides it (`Hides`); all other searches find what they found before (`bind_seen_along_chains`). The
chain is that after the pass: the singleton class that a pass creates may be the superclass of a
class defined long before.
-/

namespace MethodBinding

/-! ## Lists of tables -/

section Layers

variable {α β : Type} {new old : α → Option β} {l before after : List α} {a : α}

/-- Along the list, nothing of the new layer is to be seen: there is nothing new, or something old
comes before all that is new. -/
def Hides (new old : α → Option β) (l : List α) : Prop :=
  (∀ a ∈ l, new a = none) ∨
  ∃ before a after, l = before ++ a :: after ∧ (old a).isSome = true ∧
    ∀ b ∈ before ++ [a], new b = none

theorem findSome?_congr {f g : α → Option β} (h : ∀ a ∈ l, f a = g a) :
    l.findSome? f = l.findSome? g := by
  induction l with
  | nil => rfl
  | cons a l ih =>
    rw [List.findSome?_cons, List.findSome?_cons, h a List.mem_cons_self,
      ih fun b hb => h b (List.mem_cons_of_mem _ hb)]

/-- A hit ends the way along a list. -/
theorem findSome?_append_hit (f : α → Option β) (ha : (f a).isSome = true) :
    (before ++ a :: after).findSome? f = (before ++ [a]).findSome? f := by
  obtain ⟨b, hb⟩ := Option.isSome_iff_exists.1 ha
  simp only [List.findSome?_append, List.findSome?_cons, hb]

theorem Hides.findSome? (h : Hides new old l) :
    l.findSome? (fun a => (new a).or (old a)) = l.findSome? old := by
  rcases h with hnone | ⟨before, a, after, rfl, hold, hnone⟩
  · exact findSome?_congr fun a ha => by rw [hnone a ha, Option.none_or]
  · have hsame : ∀ b ∈ before ++ [a], (new b).or (old b) = old b := fun b hb => by
      rw [hnone b hb, Option.none_or]
    have hhit : ((new a).or (old a)).isSome = true := by
      rw [hsame a (by simp)]
      exact hold
    rw [findSome?_append_hit old hold, ← findSome?_congr hsame]
    exact findSome?_append_hit _ hhit

/-- What is not hidden is the first of the new layer. -/
theorem first_of_not_hides (h : ¬Hides new old l) :
    ∃ before a after b, l = before ++ a :: after ∧ (∀ c ∈ before, new c = none) ∧
      new a = some b ∧ l.findSome? (fun a => (new a).or (old a)) = some b := by
  cases hn : l.findSome? new with
  | none => exact absurd (.inl (List.findSome?_eq_none_iff.1 hn)) h
  | some b =>
    obtain ⟨before, a, after, rfl, ha, hnone⟩ := List.findSome?_eq_some_iff.1 hn
    refine ⟨before, a, after, b, rfl, hnone, ha, ?_⟩
    refine List.findSome?_eq_some_iff.2 ⟨before, a, after, rfl, by rw [ha, Option.some_or], ?_⟩
    intro c hc
    rw [hnone c hc, Option.none_or]
    -- an old one before the first new one would hide it
    refine Option.not_isSome_iff_eq_none.1 fun hold => h (.inr ?_)
    obtain ⟨first, last, rfl⟩ := List.append_of_mem hc
    refine ⟨first, c, last ++ a :: after, by simp, hold, fun d hd => hnone d ?_⟩
    rcases List.mem_append.1 hd with hd | hd
    · exact List.mem_append_left _ hd
    · rw [List.mem_singleton.1 hd]
      exact hc

end Layers

namespace Space

variable {s : Space} (hostType : String) (descriptors : List Descriptor) (target : ModuleId)

/-! ## The chain after a pass -/

theorem Tower.superclass?_bind (h : s.Tower) (id : ModuleId) :
    (s.bind hostType descriptors target).space.superclass? id = s.superclass? id := by
  rw [superclass?, h.outline?_bind]
  split
  · exact superclass?_singletonOf s target id
  · rfl

/-- A search after a pass and the same search before it, along one chain. -/
theorem Tower.search_bind (h : s.Tower) {id : ModuleId} {chain : List ModuleId}
    (hc : (s.bind hostType descriptors target).space.Chain id chain) (name : String) :
    s.search id name = chain.findSome? (s.lookup? · name) ∧
    (s.bind hostType descriptors target).space.search id name =
      chain.findSome? fun other =>
        ((s.bind hostType descriptors target).written? target name other).or
          (s.lookup? other name) := by
  obtain ⟨older, holder, hsame⟩ := hc.before (h.superclass?_bind hostType descriptors target)
    fun _ => h.module?_isSome_bind hostType descriptors
  refine ⟨by rw [holder.search, hsame], ?_⟩
  rw [hc.search]
  exact findSome?_congr fun other _ => h.lookup?_bind hostType descriptors other name

end Space

/-- **A pass is seen through inheritance, and nowhere else.** In a reachable space whose superclass
links do not run in cycles, take the superclass chain of any number after any pass. If no table on
it was written under a name, or a module before all of these had an entry already, a search finds
what it found before; otherwise it finds the new entry of the first table on the chain that was
written. -/
theorem bind_seen_along_chains {s : Space} (hs : s.Reachable) (ha : s.Acyclic) (hostType : String)
    (descriptors : List Descriptor) (target id : ModuleId) (name : String) :
    ∃ chain, (s.bind hostType descriptors target).space.Chain id chain ∧
      (Hides ((s.bind hostType descriptors target).written? target name) (s.lookup? · name) chain →
        (s.bind hostType descriptors target).space.search id name = s.search id name) ∧
      (¬Hides ((s.bind hostType descriptors target).written? target name) (s.lookup? · name)
          chain →
        ∃ before first after e, chain = before ++ first :: after ∧
          (∀ other ∈ before,
            (s.bind hostType descriptors target).written? target name other = none) ∧
          (s.bind hostType descriptors target).written? target name first = some e ∧
          (s.bind hostType descriptors target).space.lookup? first name = some e ∧
          (s.bind hostType descriptors target).space.search id name = some e) := by
  have h := hs.tower
  have ha' : (s.bind hostType descriptors target).space.Acyclic :=
    ha.congr (h.superclass?_bind hostType descriptors target)
  obtain ⟨chain, hc⟩ := ha'.exists_chain id
  obtain ⟨hbefore, hafter⟩ := h.search_bind hostType descriptors target hc name
  refine ⟨chain, hc, fun hhides => ?_, fun hseen => ?_⟩
  · rw [hafter, hbefore]
    exact hhides.findSome?
  · obtain ⟨before, first, after, e, hsplit, hnone, hnew, hfound⟩ := first_of_not_hides hseen
    refine ⟨before, first, after, e, hsplit, hnone, hnew, ?_, by rw [hafter, hfound]⟩
    rw [h.lookup?_bind, hnew, Option.some_or]

/-- A class may inherit from a number that has no module yet. -/
def forwardSpace : Space :=
  (Space.empty .standard).run [.defineClass "Base" none, .defineClass "Derived" (some ⟨2⟩)]

/-- A pass gives that number to a singleton class, whose method is then inherited. -/
theorem forward_class_sees_sqrt :
    forwardSpace.Acyclic ∧ forwardSpace.search ⟨1⟩ "sqrt" = none ∧
      ∃ e, (forwardSpace.bind "Math" [sqrtDescriptor] ⟨0⟩).space.search ⟨1⟩ "sqrt" = some e ∧
        e.owner = ⟨2⟩ := by
  have ha : forwardSpace.Acyclic := by
    refine Space.acyclic_of_rank (fun id => if id = ⟨1⟩ then 1 else 0) ?_
    rintro ⟨_ | _ | index⟩ superclass h
    · cases h
    · cases h
      decide
    · cases h
  obtain ⟨chain, hc, -, hseen⟩ := bind_seen_along_chains ⟨_, _, rfl⟩ ha "Math" [sqrtDescriptor] ⟨0⟩
    ⟨1⟩ "sqrt"
  cases (Space.Chain.link rfl (.last rfl rfl)).unique hc
  have hnothides : ¬Hides ((forwardSpace.bind "Math" [sqrtDescriptor] ⟨0⟩).written? ⟨0⟩ "sqrt")
      (forwardSpace.lookup? · "sqrt") [⟨1⟩, ⟨2⟩] := by
    rintro (hnone | ⟨before, id, after, hsplit, hold, -⟩)
    · cases hnone ⟨2⟩ (by simp)
    · have hmem : id ∈ [(⟨1⟩ : ModuleId), ⟨2⟩] := by simp [hsplit]
      rcases List.mem_pair.1 hmem with rfl | rfl <;> cases hold
  obtain ⟨before, first, after, e, hsplit, -, hnew, -, hfound⟩ := hseen hnothides
  have hmem : first ∈ [(⟨1⟩ : ModuleId), ⟨2⟩] := by simp [hsplit]
  rcases List.mem_pair.1 hmem with rfl | rfl
  · cases hnew
  · cases hnew
    exact ⟨ha, rfl, _, hfound, rfl⟩

end MethodBinding
