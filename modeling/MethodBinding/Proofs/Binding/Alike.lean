import MethodBinding.Binding.Pass
import MethodBinding.Call
import MethodBinding.Proofs.Space.Registry
import Mathlib.Data.List.Perm.Basic

/-!
# Likeness

Two passes never make the same entries: each entry has a stamp of its own, and each pass has
adapters of its own. What can be compared is what rows show and how they answer calls
(`Row.Alike`). Spaces are alike if they have the same settings and the same registry, and alike rows
under the same names of the same modules (`Space.Alike`); lists of bound methods agree if they are
alike up to order (`BoundMethod.Agree`).

A row without the identity of its adapter is bare (`Row.bare`). Rows with the same bare row are
alike, so likeness is shown by equations between bare rows (`Space.alike_of_bareRow?`,
`BoundMethod.agree_of_bare`).
-/

namespace MethodBinding

/-! ## Likeness -/

/-- Two adapters that answer every call alike, in a space and elsewhere, whatever the host functions
do. -/
structure Adapter.Alike (a b : Adapter) : Prop where
  invoke : ∀ (does : Interpretation) (recv : Value) (args : List Value) (block : Option Block),
    a.invoke does recv args block = b.invoke does recv args block
  invokeIn : ∀ {m : Type → Type} [Monad m] (does : InterpretationIn m) (ctx : Context)
    (recv : Value) (args : List Value) (block : Option (BlockIn m)),
    a.invokeIn does ctx recv args block = b.invokeIn does ctx recv args block

/-- Two rows that show the same and answer every call alike. -/
structure Row.Alike (r r' : Row) : Prop where
  name : r.name = r'.name
  owner : r.owner = r'.owner
  visibility : r.visibility = r'.visibility
  arity : r.arity = r'.arity
  check : r.check = r'.check
  adapter : r.adapter.Alike r'.adapter

/-- Entries are alike if their rows are, whatever their stamps. -/
def Entry.Alike (e e' : Entry) : Prop := e.toRow.Alike e'.toRow

/-- Two bound methods of one name with alike entries in the same tables. -/
structure BoundMethod.Alike (b b' : BoundMethod) : Prop where
  name : b.name = b'.name
  onModule : Option.Rel Entry.Alike b.onModule b'.onModule
  onSingleton : Option.Rel Entry.Alike b.onSingleton b'.onSingleton

/-- Two lists of bound methods that are alike up to order. -/
def BoundMethod.Agree (bound bound' : List BoundMethod) : Prop :=
  ∃ sorted, bound.Perm sorted ∧ List.Forall₂ BoundMethod.Alike sorted bound'

/-- Two spaces with the same settings and the same registry, whose tables have the same names with
alike entries. -/
structure Space.Alike (s s' : Space) : Prop where
  settings : s.settings = s'.settings
  registry : s.registry = s'.registry
  tables : ∀ id name, Option.Rel Entry.Alike (s.lookup? id name) (s'.lookup? id name)

theorem Adapter.Alike.symm {a b : Adapter} (h : a.Alike b) : b.Alike a where
  invoke does recv args block := (h.invoke does recv args block).symm
  invokeIn does ctx recv args block := (h.invokeIn does ctx recv args block).symm

theorem Adapter.Alike.trans {a b c : Adapter} (h : a.Alike b) (h' : b.Alike c) : a.Alike c where
  invoke does recv args block := (h.invoke does recv args block).trans (h'.invoke ..)
  invokeIn does ctx recv args block := (h.invokeIn does ctx recv args block).trans (h'.invokeIn ..)

theorem Row.Alike.symm {r r' : Row} (h : r.Alike r') : r'.Alike r :=
  ⟨h.name.symm, h.owner.symm, h.visibility.symm, h.arity.symm, h.check.symm, h.adapter.symm⟩

theorem Row.Alike.trans {r r' r'' : Row} (h : r.Alike r') (h' : r'.Alike r'') : r.Alike r'' :=
  ⟨h.name.trans h'.name, h.owner.trans h'.owner, h.visibility.trans h'.visibility,
    h.arity.trans h'.arity, h.check.trans h'.check, h.adapter.trans h'.adapter⟩

theorem Space.Alike.symm {s s' : Space} (h : s.Alike s') : s'.Alike s := by
  refine ⟨h.settings.symm, h.registry.symm, fun id name => ?_⟩
  have hrow := h.tables id name
  generalize s.lookup? id name = e, s'.lookup? id name = e' at hrow
  cases hrow with
  | none => exact .none
  | some hrow => exact .some (Row.Alike.symm hrow)

theorem Space.Alike.trans {s s' s'' : Space} (h : s.Alike s') (h' : s'.Alike s'') :
    s.Alike s'' := by
  refine ⟨h.settings.trans h'.settings, h.registry.trans h'.registry, fun id name => ?_⟩
  have hrow := h.tables id name
  have hrow' := h'.tables id name
  generalize s.lookup? id name = e, s'.lookup? id name = e', s''.lookup? id name = e''
    at hrow hrow'
  cases hrow with
  | none =>
    cases hrow' with
    | none => exact .none
  | some hrow =>
    cases hrow' with
    | some hrow' => exact .some (Row.Alike.trans hrow hrow')

/-! ## Bare rows -/

/-- A row without the identity of its adapter. -/
def Row.bare (r : Row) : Row := { r with adapter := { r.adapter with identity := 0 } }

theorem Row.alike_of_bare {r r' : Row} (h : r.bare = r'.bare) : r.Alike r' := by
  obtain ⟨name, owner, visibility, arity, check, ⟨identity, host, policy⟩⟩ := r
  obtain ⟨name', owner', visibility', arity', check', ⟨identity', host', policy'⟩⟩ := r'
  simp only [bare, mk.injEq, Adapter.mk.injEq, true_and] at h
  obtain ⟨rfl, rfl, rfl, rfl, rfl, rfl, rfl⟩ := h
  exact ⟨rfl, rfl, rfl, rfl, rfl, fun _ _ _ _ => rfl, fun _ _ _ _ _ => rfl⟩

/-- The row of an entry, without identities. -/
def Entry.bare (e : Entry) : Row := e.toRow.bare

theorem Entry.rel_of_bare {e e' : Option Entry} (h : e.map Entry.bare = e'.map Entry.bare) :
    Option.Rel Entry.Alike e e' := by
  cases e with
  | none =>
    rw [Option.map_none, eq_comm, Option.map_eq_none_iff] at h
    rw [h]
    exact .none
  | some a =>
    obtain ⟨a', rfl, ha⟩ := Option.map_eq_some_iff.1 h.symm
    exact .some (Row.alike_of_bare ha.symm)

/-- A planned method without identities. -/
def PlannedMethod.bare (p : PlannedMethod) : PlannedMethod :=
  ⟨p.name, p.onModule.map Row.bare, p.onSingleton.map Row.bare⟩

/-- A bound method without identities. -/
def BoundMethod.bare (b : BoundMethod) : PlannedMethod :=
  ⟨b.name, b.onModule.map Entry.bare, b.onSingleton.map Entry.bare⟩

theorem BoundMethod.alike_of_bare {b b' : BoundMethod} (h : b.bare = b'.bare) : b.Alike b' := by
  obtain ⟨hname, hmodule, hsingleton⟩ := PlannedMethod.mk.inj h
  exact ⟨hname, Entry.rel_of_bare hmodule, Entry.rel_of_bare hsingleton⟩

/-- Lists that are the same without identities are alike, method by method. -/
theorem BoundMethod.forall₂_alike_of_bare {bound bound' : List BoundMethod}
    (h : bound.map BoundMethod.bare = bound'.map BoundMethod.bare) :
    List.Forall₂ BoundMethod.Alike bound bound' := by
  rw [← List.forall₂_eq_eq_eq, List.forall₂_map_left_iff, List.forall₂_map_right_iff] at h
  exact h.imp fun _ _ => BoundMethod.alike_of_bare

/-- Lists that are permutations of each other without identities are alike up to order. -/
theorem BoundMethod.agree_of_bare {bound bound' : List BoundMethod}
    (h : (bound.map BoundMethod.bare).Perm (bound'.map BoundMethod.bare)) :
    BoundMethod.Agree bound bound' := by
  have hbare : List.Forall₂ (fun p b => p = BoundMethod.bare b) (bound.map BoundMethod.bare)
      bound := List.forall₂_map_left_iff.2 (List.forall₂_same.2 fun _ _ => rfl)
  obtain ⟨sorted, hsorted, hperm⟩ := List.perm_comp_forall₂ h.symm hbare
  refine ⟨sorted, hperm.symm, ?_⟩
  rw [List.forall₂_map_left_iff] at hsorted
  exact hsorted.flip.imp fun _ _ heq => BoundMethod.alike_of_bare heq.symm

namespace Space

/-- The row under a name in a module's own table, without identities. -/
def bareRow? (s : Space) (id : ModuleId) (name : String) : Option Row :=
  (s.lookup? id name).map Entry.bare

theorem alike_of_bareRow? {s s' : Space} (hsettings : s.settings = s'.settings)
    (houtline : ∀ id, s.outline? id = s'.outline? id)
    (hrow : ∀ id name, s.bareRow? id name = s'.bareRow? id name) : s.Alike s' :=
  ⟨hsettings, registry_eq_iff.2 houtline, fun id name => Entry.rel_of_bare (hrow id name)⟩

end Space

end MethodBinding
