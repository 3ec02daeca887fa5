import MethodBinding.Proofs.Binding.Inheritance
import Mathlib.Logic.Function.Iterate

/-!
# Searches end at the nearest definition

A search is a loop: each turn visits a module and goes on to its superclass, unless the module has
the name (`Space.searchTurn`). Nothing in the loop counts its turns. Along a superclass chain it
ends (`Chain.searchTurn_ends`), having visited modules from the front of the chain only, with the
first entry on it; that is what `Space.search` answers (`Space.SearchedAlong`).

A number has a chain unless the links lead from it into a cycle. They never do after a run in which
every class is defined below one that is registered by then (`Space.GroundedRun`): all links lead to
lower numbers (`Space.LinksDown`), which every operation of such a run keeps
(`Tower.linksDown_perform`).
-/

namespace MethodBinding

/-- Where a search is: the number to be looked at next, the modules visited so far in order, and the
entry that was found. Without a next number it has ended. -/
structure SearchState where
  current : Option ModuleId
  visited : List ModuleId
  found : Option Entry

/-- The state in which a search starts. -/
def SearchState.start (id : ModuleId) : SearchState := ⟨some id, [], none⟩

namespace Space

variable {s : Space} {id superclass : ModuleId} {chain : List ModuleId} {name : String}

/-- One turn of the search for a name. A number without a module ends it, and so does a module that
has the name; otherwise it goes on with the superclass, if there is one. -/
def searchTurn (s : Space) (name : String) (p : SearchState) : SearchState :=
  match p.current with
  | none => p
  | some id =>
    match s.module? id with
    | none => { p with current := none }
    | some m =>
      match m.methods.find? name with
      | some e => ⟨none, p.visited ++ [id], some e⟩
      | none => ⟨m.superclass?, p.visited ++ [id], none⟩

/-! ## One turn -/

theorem searchTurn_unknown (h : s.module? id = none) (visited : List ModuleId) :
    s.searchTurn name ⟨some id, visited, none⟩ = ⟨none, visited, none⟩ := by
  simp only [searchTurn, h]

theorem searchTurn_hit {e : Entry} (h : s.lookup? id name = some e) (visited : List ModuleId) :
    s.searchTurn name ⟨some id, visited, none⟩ = ⟨none, visited ++ [id], some e⟩ := by
  obtain ⟨m, hm, he⟩ := Option.bind_eq_some_iff.1 h
  simp only [searchTurn, hm, he]

theorem searchTurn_miss (hreg : (s.module? id).isSome = true) (h : s.lookup? id name = none)
    (visited : List ModuleId) :
    s.searchTurn name ⟨some id, visited, none⟩ = ⟨s.superclass? id, visited ++ [id], none⟩ := by
  obtain ⟨m, hm⟩ := Option.isSome_iff_exists.1 hreg
  rw [lookup?, hm, Option.bind_some] at h
  simp only [searchTurn, hm, h, superclass?_of_module? hm]

/-! ## The loop along a chain -/

/-- Along a chain the loop ends with the first hit, and visits nothing behind it. -/
theorem Chain.searchTurn_ends (h : s.Chain id chain) (name : String) (before : List ModuleId) :
    ∃ turns visited, visited <+: chain ∧
      (s.searchTurn name)^[turns] ⟨some id, before, none⟩ =
        ⟨none, before ++ visited, chain.findSome? (s.lookup? · name)⟩ := by
  -- a module that has the name ends the loop, whatever follows on the chain
  have hit : ∀ {id rest e} (before : List ModuleId), s.lookup? id name = some e →
      ∃ turns visited, visited <+: id :: rest ∧
        (s.searchTurn name)^[turns] ⟨some id, before, none⟩ =
          ⟨none, before ++ visited, (id :: rest).findSome? (s.lookup? · name)⟩ := by
    intro id rest e before he
    refine ⟨1, [id], List.prefix_append [id] rest, ?_⟩
    rw [Function.iterate_one, searchTurn_hit he, List.findSome?_cons, he]
  induction h generalizing before with
  | unknown hnone =>
    refine ⟨1, [], List.nil_prefix, ?_⟩
    rw [Function.iterate_one, searchTurn_unknown hnone, List.append_nil]
    rfl
  | @last id hreg hno =>
    cases hl : s.lookup? id name with
    | some e => exact hit before hl
    | none =>
      refine ⟨1, [id], List.prefix_refl _, ?_⟩
      rw [Function.iterate_one, searchTurn_miss hreg hl, hno, List.findSome?_cons, hl]
      rfl
  | @link id superclass rest hsup _ ih =>
    cases hl : s.lookup? id name with
    | some e => exact hit before hl
    | none =>
      obtain ⟨turns, visited, hvisited, hends⟩ := ih (before ++ [id])
      refine ⟨turns + 1, id :: visited, (List.prefix_cons_inj id).2 hvisited, ?_⟩
      rw [Function.iterate_succ_apply,
        searchTurn_miss (module?_isSome_of_superclass? hsup) hl, hsup, hends, List.append_assoc,
        List.findSome?_cons, hl]
      rfl

/-- A search for a name goes along a chain: the loop ends with what `search` answers, having visited
modules from the front of the chain, at most as many as are registered; and that is the entry of the
first module on the chain that has the name. -/
structure SearchedAlong (s : Space) (id : ModuleId) (name : String) (chain : List ModuleId) :
    Prop where
  ends : ∃ turns visited,
    (s.searchTurn name)^[turns] (.start id) = ⟨none, visited, s.search id name⟩ ∧
      visited <+: chain ∧ visited.length ≤ s.modules.length
  nearest : ∀ before holder after e, chain = before ++ holder :: after →
    (∀ other ∈ before, s.lookup? other name = none) → s.lookup? holder name = some e →
    s.search id name = some e
  absent : (∀ other ∈ chain, s.lookup? other name = none) → s.search id name = none

theorem Chain.searchedAlong (h : s.Chain id chain) (name : String) :
    s.SearchedAlong id name chain where
  ends := by
    obtain ⟨turns, visited, hvisited, hends⟩ := h.searchTurn_ends name []
    refine ⟨turns, visited, ?_, hvisited, Nat.le_trans hvisited.length_le h.length_le⟩
    rw [h.search]
    exact hends
  nearest before holder after e hchain hbefore hholder := by
    rw [h.search]
    exact List.findSome?_eq_some_iff.2 ⟨before, holder, after, hchain, hholder, hbefore⟩
  absent hnone := by
    rw [h.search]
    exact List.findSome?_eq_none_iff.2 hnone

/-- The chain of a module that is no class, or a singleton class, is the module alone. -/
theorem chain_self {m : Module} (hm : s.module? id = some m)
    (hkind : m.kind = .plain ∨ ∃ attached, m.kind = .singleton attached) : s.Chain id [id] := by
  have hno : m.superclass? = none := by
    obtain hkind | ⟨attached, hkind⟩ := hkind <;> rw [Module.superclass?, hkind]
  refine .last (by rw [hm]; rfl) ?_
  rw [superclass?_of_module? hm, hno]

/-! ## Links that lead down -/

/-- Classes inherit from classes with lower numbers. -/
def LinksDown (s : Space) : Prop :=
  ∀ id superclass, s.Inherits id superclass → superclass.index < id.index

theorem LinksDown.acyclic (h : s.LinksDown) : s.Acyclic := acyclic_of_rank (·.index) h

theorem LinksDown.congr {s' : Space} (h : s.LinksDown)
    (hs : ∀ id, s'.superclass? id = s.superclass? id) : s'.LinksDown := by
  intro id superclass hlink
  rw [Inherits, hs] at hlink
  exact h id superclass hlink

theorem LinksDown.empty (settings : Settings) : (empty settings).LinksDown := by
  intro id superclass h
  cases h

/-- A new module without superclass, or with a registered one, keeps links leading down. -/
theorem LinksDown.define (h : s.LinksDown) {kind : ModuleKind}
    (hkind : ∀ superclass, kind = .ofClass (some superclass) →
      (s.module? superclass).isSome = true) : (s.define name kind).LinksDown := by
  intro id superclass hlink
  rw [Inherits, superclass?_define] at hlink
  split at hlink
  · next hnext =>
    have hreg : (s.module? superclass).isSome = true := by
      apply hkind
      cases kind with
      | ofClass sup => exact congrArg _ hlink
      | plain => cases hlink
      | singleton attached => cases hlink
    rw [hnext]
    exact module?_isSome.1 hreg
  · exact h id superclass hlink

end Space

/-- A class is defined without superclass or below one that is registered already. -/
def Operation.Grounded (s : Space) : Operation → Prop
  | .defineClass _ (some superclass) => (s.module? superclass).isSome = true
  | _ => True

namespace Space

variable {s : Space} {id : ModuleId}

/-- Each class that is defined on the way is grounded. -/
def GroundedRun (s : Space) : List Operation → Prop
  | [] => True
  | o :: operations => o.Grounded s ∧ (s.perform o).GroundedRun operations

theorem Tower.linksDown_bindHostType (ht : s.Tower) (h : s.LinksDown) (t : HostType)
    (target : ModuleId) : (s.bindHostType t target).space.LinksDown := by
  unfold Space.bindHostType
  cases t.descriptors with
  | error e => exact h
  | ok descriptors => exact h.congr (ht.superclass?_bind t.name descriptors target)

/-- Every operation of a grounded run keeps links leading down. -/
theorem Tower.linksDown_perform (ht : s.Tower) (h : s.LinksDown) {o : Operation}
    (ho : o.Grounded s) : (s.perform o).LinksDown := by
  have hwrite : ∀ id f, (s.modifyMethods id f).LinksDown := fun id f =>
    h.congr fun _ => superclass?_congr (outline?_modifyMethods ..)
  cases o with
  | defineModule name => exact h.define nofun
  | defineClass name superclass =>
    refine h.define fun sup hsup => ?_
    cases hsup
    exact ho
  | singletonOf id => exact h.congr (superclass?_singletonOf s id)
  | install id name e => exact hwrite id _
  | installMany id rows => exact hwrite id _
  | remove id name => exact hwrite id _
  | adapter host policy => exact h.congr fun _ => rfl
  | stamp r => exact h.congr fun _ => rfl
  | bind t target => exact ht.linksDown_bindHostType h t target

theorem Tower.linksDown_run (ht : s.Tower) (h : s.LinksDown) {operations : List Operation}
    (ho : s.GroundedRun operations) : (s.run operations).LinksDown := by
  induction operations generalizing s with
  | nil => exact h
  | cons o operations ih => exact ih (ht.perform o) (ht.linksDown_perform h ho.1) ho.2

theorem GroundedRun.linksDown {settings : Settings} {operations : List Operation}
    (ho : (empty settings).GroundedRun operations) :
    ((empty settings).run operations).LinksDown :=
  (Tower.empty settings).linksDown_run (.empty settings) ho

end Space

/-- **A search ends at the nearest definition.** After a run in which every class is defined without
superclass or below one registered by then, each number has a superclass chain, and a search goes
along it. So it does from any number of any space from where the links lead into no cycle. A number
without a module has nothing on its chain, and a module that is no class, or a singleton class, has
itself alone. -/
theorem search_finds_nearest :
    (∀ (settings : Settings) (operations : List Operation),
      (Space.empty settings).GroundedRun operations →
      ∀ id, ∃ chain, ((Space.empty settings).run operations).Chain id chain ∧
        ∀ name, ((Space.empty settings).run operations).SearchedAlong id name chain) ∧
    (∀ (s : Space) (id : ModuleId), s.NoReturn id →
      ∃ chain, s.Chain id chain ∧ ∀ name, s.SearchedAlong id name chain) ∧
    (∀ (s : Space) (id : ModuleId), s.module? id = none →
      s.Chain id [] ∧ ∀ name, s.search id name = none) ∧
    ∀ (s : Space) (id : ModuleId) (m : Module), s.module? id = some m →
      (m.kind = .plain ∨ ∃ attached, m.kind = .singleton attached) →
      s.Chain id [id] ∧ ∀ name, s.SearchedAlong id name [id] ∧
        s.search id name = m.methods.find? name := by
  have hgeneral : ∀ (s : Space) (id : ModuleId), s.NoReturn id →
      ∃ chain, s.Chain id chain ∧ ∀ name, s.SearchedAlong id name chain := by
    intro s id h
    obtain ⟨chain, hc⟩ := h.exists_chain
    exact ⟨chain, hc, hc.searchedAlong⟩
  refine ⟨fun settings operations ho id => ?_, hgeneral, fun s id hnone => ?_,
    fun s id m hm hkind => ?_⟩
  · exact hgeneral _ id (ho.linksDown.acyclic.noReturn id)
  · have hc : s.Chain id [] := .unknown hnone
    exact ⟨hc, fun name => (hc.searchedAlong name).absent (by simp)⟩
  · have hc := Space.chain_self hm hkind
    refine ⟨hc, fun name => ⟨hc.searchedAlong name, ?_⟩⟩
    rw [hc.search, List.findSome?_singleton, Space.lookup?, hm, Option.bind_some]

/-- A class, one below it that has been asked for its singleton class, and methods for the upper
one. -/
def derivedOperations : List Operation :=
  [.defineClass "Base" none, .defineClass "Derived" (some ⟨0⟩), .singletonOf ⟨1⟩,
    .bind ⟨"Base", .ok [setupDescriptor, sqrtDescriptor]⟩ ⟨0⟩]

def derivedSpace : Space := (Space.empty .standard).run derivedOperations

/-- A class below a number that has no module. -/
def orphanSpace : Space := (Space.empty .standard).run [.defineClass "Orphan" (some ⟨5⟩)]

/-- The lower class finds the method of the upper one, its singleton class does not, and the search
from the orphan ends without an answer. -/
theorem derived_finds_sqrt_of_base :
    (Space.empty .standard).GroundedRun derivedOperations ∧
    (∃ turns visited e, (derivedSpace.searchTurn "sqrt")^[turns] (.start ⟨1⟩) =
        ⟨none, visited, some e⟩ ∧ visited <+: [⟨1⟩, ⟨0⟩] ∧ e.owner = ⟨0⟩) ∧
    derivedSpace.search ⟨2⟩ "sqrt" = none ∧
    orphanSpace.NoReturn ⟨0⟩ ∧ orphanSpace.search ⟨0⟩ "sqrt" = none := by
  obtain ⟨hgrounded, hgeneral, -, hself⟩ := search_finds_nearest
  have ho : (Space.empty .standard).GroundedRun derivedOperations :=
    ⟨trivial, rfl, trivial, trivial, trivial⟩
  have horphan : orphanSpace.NoReturn ⟨0⟩ := by
    refine (Space.acyclic_of_rank (fun id => if id = ⟨0⟩ then 1 else 0) ?_).noReturn ⟨0⟩
    rintro ⟨_ | index⟩ superclass h
    · cases h
      decide
    · cases h
  refine ⟨ho, ?_, ?_, horphan, ?_⟩
  · obtain ⟨chain, hc, hsearched⟩ := hgrounded .standard derivedOperations ho ⟨1⟩
    cases (Space.Chain.link rfl (.last rfl rfl)).unique hc
    obtain ⟨turns, visited, hends, hvisited, -⟩ := (hsearched "sqrt").ends
    have hnearest := (hsearched "sqrt").nearest [⟨1⟩] ⟨0⟩ [] _ rfl (by simp; rfl) rfl
    rw [hnearest] at hends
    exact ⟨turns, visited, _, hends, hvisited, rfl⟩
  · obtain ⟨-, hsingleton⟩ := hself derivedSpace ⟨2⟩ _ rfl (.inr ⟨⟨1⟩, rfl⟩)
    exact (hsingleton "sqrt").2
  · obtain ⟨chain, hc, hsearched⟩ := hgeneral orphanSpace ⟨0⟩ horphan
    cases (Space.Chain.link rfl (.unknown rfl)).unique hc
    exact (hsearched "sqrt").absent (by simp; rfl)

end MethodBinding
