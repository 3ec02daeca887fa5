import MethodBinding.Attribute.Signature
import MethodBinding.Proofs.Descriptor.Entries
import Mathlib.Tactic.IntervalCases

/-!
# Signatures that have a shape

`TypeExpr.HasKind` says which types the parameters of each kind have, and `Inferred.Reads` which
sequences of kinds make a signature, with what they say. The tests on types decide the former
(`ParamKind.ofType?_eq_some_iff`), the match on the kinds decides the latter
(`Inferred.ofKinds_eq_ok_iff`). So a shape is inferred exactly for the functions that are neither
asynchronous nor generic, have no receiver of the language, and whose parameters are of such kinds
(`infer_exact`).
-/

namespace MethodBinding.Attribute

variable {t : TypeExpr} {kind : ParamKind} {kinds : List ParamKind} {context : Bool} {i : Inferred}

/-! ## Types -/

/-- A type is a path, and a name is its last segment. -/
inductive TypeExpr.EndsIn : TypeExpr → String → Prop where
  | path (isGlobal : Bool) (front : List String) (name : String)
      (arguments : Option (List GenericArgument)) :
    EndsIn (.path isGlobal (front ++ [name]) arguments) name
  | qualified (self : TypeExpr) (trait name : String)
      (arguments : Option (List GenericArgument)) :
    EndsIn (.qualified self trait name arguments) name

theorem TypeExpr.endsIn_iff {name : String} : t.endsIn name = true ↔ t.EndsIn name := by
  rw [endsIn, beq_iff_eq]
  constructor
  · intro h
    cases t with
    | path isGlobal segments arguments =>
      obtain ⟨front, rfl⟩ := List.getLast?_eq_some_iff.1 h
      exact .path isGlobal front name arguments
    | qualified self trait _ arguments =>
      cases h
      exact .qualified self trait name arguments
    | _ => cases h
  · intro h
    cases h with
    | path isGlobal front _ arguments => simp [lastSegment?]
    | qualified => rfl

/-- The types of the parameters of a kind. A reference may have any lifetime, and it may be mutable;
of the generic arguments of an option only the first one counts. -/
inductive TypeExpr.HasKind : TypeExpr → ParamKind → Prop where
  | context (lifetime : Option String) (isMutable : Bool) {target : TypeExpr}
      (h : target.EndsIn "CallContext") : HasKind (.reference lifetime isMutable target) .context
  | value (lifetime : Option String) (isMutable : Bool) {target : TypeExpr}
      (h : target.EndsIn "Value") : HasKind (.reference lifetime isMutable target) .value
  | slice (lifetime : Option String) (isMutable : Bool) {item : TypeExpr}
      (h : item.EndsIn "Value") : HasKind (.reference lifetime isMutable (.slice item)) .slice
  | block (isGlobal : Bool) (front : List String) (lifetime : Option String) (isMutable : Bool)
      {target : TypeExpr} (h : target.EndsIn "Block") (more : List GenericArgument) :
    HasKind (.path isGlobal (front ++ ["Option"])
      (some (.type (.reference lifetime isMutable target) :: more))) .block
  | qualifiedBlock (self : TypeExpr) (trait : String) (lifetime : Option String)
      (isMutable : Bool) {target : TypeExpr} (h : target.EndsIn "Block")
      (more : List GenericArgument) :
    HasKind (.qualified self trait "Option"
      (some (.type (.reference lifetime isMutable target) :: more))) .block

theorem ParamKind.ofType?_eq_some_iff : ofType? t = some kind ↔ t.HasKind kind := by
  constructor
  · intro h
    unfold ofType? at h
    split at h
    next lifetime isMutable item =>
      obtain ⟨hitem, hkind⟩ := Option.ite_none_right_eq_some.1 h
      cases hkind
      exact .slice lifetime isMutable (TypeExpr.endsIn_iff.1 hitem)
    next lifetime isMutable target _ =>
      split at h
      next hvalue =>
        cases h
        exact .value lifetime isMutable (TypeExpr.endsIn_iff.1 hvalue)
      next =>
        obtain ⟨hcontext, hkind⟩ := Option.ite_none_right_eq_some.1 h
        cases hkind
        exact .context lifetime isMutable (TypeExpr.endsIn_iff.1 hcontext)
    next =>
      split at h
      next hfirst =>
        obtain ⟨hends, hkind⟩ := Option.ite_none_right_eq_some.1 h
        cases hkind
        obtain ⟨hoption, hblock⟩ := (Bool.and_eq_true _ _).mp hends
        cases TypeExpr.endsIn_iff.1 hoption with
        | path isGlobal front =>
          cases hfirst
          exact .block isGlobal front _ _ (TypeExpr.endsIn_iff.1 hblock) _
        | qualified self trait =>
          cases hfirst
          exact .qualifiedBlock self trait _ _ (TypeExpr.endsIn_iff.1 hblock) _
      next => cases h
  · intro h
    -- What ends in a name is a path, so the tests before the one that holds are refuted.
    cases h with
    | context lifetime isMutable h =>
      cases h <;> simp [ofType?, TypeExpr.endsIn, TypeExpr.lastSegment?]
    | value lifetime isMutable h =>
      cases h <;> simp [ofType?, TypeExpr.endsIn, TypeExpr.lastSegment?]
    | slice lifetime isMutable h => simp [ofType?, TypeExpr.endsIn_iff.2 h]
    | block isGlobal front _ _ h more =>
      have hoption (arguments : Option (List GenericArgument)) :=
        TypeExpr.endsIn_iff.2 (.path isGlobal front "Option" arguments)
      simp [ofType?, TypeExpr.arguments?, hoption, TypeExpr.endsIn_iff.2 h]
    | qualifiedBlock self trait _ _ h more =>
      have hoption (arguments : Option (List GenericArgument)) :=
        TypeExpr.endsIn_iff.2 (.qualified self trait "Option" arguments)
      simp [ofType?, TypeExpr.arguments?, hoption, TypeExpr.endsIn_iff.2 h]

theorem kindsOf_eq_ok_iff {types : List TypeExpr} :
    kindsOf types = .ok kinds ↔ List.Forall₂ TypeExpr.HasKind types kinds := by
  rw [kindsOf, mapM_eq_ok_iff]
  refine iff_of_eq (congrArg (List.Forall₂ · types kinds) ?_)
  funext t kind
  rw [← ParamKind.ofType?_eq_some_iff]
  cases ParamKind.ofType? t <;> simp

/-! ## Sequences of kinds -/

namespace Inferred

/-- What the parameters behind the receiver may be, and what they say. -/
inductive ReadsArguments : Inferred → Bool → List ParamKind → Prop where
  | values (context : Bool) {n : Nat} (hn : n ≤ 3) :
    ReadsArguments ⟨context, some n, false⟩ context (List.replicate n .value)
  | slice (context : Bool) : ReadsArguments ⟨context, none, false⟩ context [.slice]
  /-- A block can only be yielded to in a context. -/
  | sliceAndBlock : ReadsArguments ⟨true, none, true⟩ true [.slice, .block]

/-- What the parameters may be, and what they say. -/
inductive Reads : Inferred → List ParamKind → Prop where
  | withContext {i : Inferred} {rest : List ParamKind} (h : i.ReadsArguments true rest) :
    Reads i (.context :: .value :: rest)
  | withoutContext {i : Inferred} {rest : List ParamKind} (h : i.ReadsArguments false rest) :
    Reads i (.value :: rest)

/-- No more than three values follow the receiver. -/
theorem Reads.slots_le {slots : Nat} (h : i.Reads kinds) (hs : i.slots = some slots) :
    slots ≤ 3 := by
  have hle {context : Bool} {rest : List ParamKind} (h : i.ReadsArguments context rest) :
      slots ≤ 3 := by
    cases h with
    | values _ hn =>
      cases hs
      exact hn
    | slice => cases hs
    | sliceAndBlock => cases hs
  cases h with
  | withContext h => exact hle h
  | withoutContext h => exact hle h

theorem ofArguments_eq_ok_iff :
    ofArguments context kinds = .ok i ↔ i.ReadsArguments context kinds := by
  constructor
  · intro h
    unfold ofArguments at h
    split at h
    · cases h
      exact .slice context
    · cases context with
      | false => cases h
      | true =>
        cases h
        exact .sliceAndBlock
    · split at h
      next hvalues =>
        cases h
        have hreplicate : kinds = List.replicate kinds.length .value :=
          List.eq_replicate_iff.2 ⟨rfl, by simpa using hvalues.2⟩
        rw [hreplicate, List.length_replicate]
        exact .values context hvalues.1
      · cases h
  · intro h
    cases h with
    | slice => rfl
    | sliceAndBlock => rfl
    | @values _ n hn => interval_cases n <;> rfl

theorem ofKinds_eq_ok_iff : ofKinds kinds = .ok i ↔ i.Reads kinds := by
  constructor
  · intro h
    unfold ofKinds at h
    split at h
    · exact .withContext (ofArguments_eq_ok_iff.1 h)
    · exact .withoutContext (ofArguments_eq_ok_iff.1 h)
    · cases h
  · intro h
    cases h with
    | withContext h => exact ofArguments_eq_ok_iff.2 h
    | withoutContext h => exact ofArguments_eq_ok_iff.2 h

end Inferred

/-! ## Functions -/

/-- The tests of a function before its parameters are read, and the reading of them. -/
theorem Function.infer_eq_ok_iff {f : Function} :
    f.infer = .ok i ↔ f.isAsync = false ∧ f.generics = [] ∧ f.selfParameter = none ∧
      ∃ kinds, kindsOf f.parameters = .ok kinds ∧ Inferred.ofKinds kinds = .ok i := by
  constructor
  · intro h
    unfold infer at h
    split at h
    · cases h
    next hasync =>
    split at h
    · cases h
    next hgenerics =>
    split at h
    · cases h
    next hself =>
    exact ⟨by simpa using hasync, by simpa using hgenerics, by simpa using hself,
      except_bind_eq_ok_iff.1 h⟩
  · rintro ⟨hasync, hgenerics, hself, hkinds⟩
    have hplain : f.infer = kindsOf f.parameters >>= Inferred.ofKinds := by
      simp [infer, hasync, hgenerics, hself]
    rw [hplain]
    exact except_bind_eq_ok_iff.2 hkinds

theorem Function.reads_of_infer {f : Function} (h : f.infer = .ok i) :
    ∃ kinds, List.Forall₂ TypeExpr.HasKind f.parameters kinds ∧ i.Reads kinds := by
  obtain ⟨-, -, -, kinds, hkinds, hok⟩ := infer_eq_ok_iff.1 h
  exact ⟨kinds, kindsOf_eq_ok_iff.1 hkinds, Inferred.ofKinds_eq_ok_iff.1 hok⟩

/-- **Signatures are read exactly.** A shape is inferred for a function exactly if it is neither
asynchronous nor generic, has no receiver of the language, and each of its parameters has a kind,
where the kinds in order are an optional context, the receiver, and then up to three values, or all
arguments as one slice, which a block may follow if there is a context. The shape tells whether
there is a context, how many values follow the receiver unless there is a slice, and whether there
is a block. -/
theorem infer_exact (f : Function) (i : Inferred) :
    f.infer = .ok i ↔ f.isAsync = false ∧ f.generics = [] ∧ f.selfParameter = none ∧
      ∃ kinds, List.Forall₂ TypeExpr.HasKind f.parameters kinds ∧ i.Reads kinds := by
  rw [Function.infer_eq_ok_iff]
  simp only [kindsOf_eq_ok_iff, Inferred.ofKinds_eq_ok_iff]

end MethodBinding.Attribute
