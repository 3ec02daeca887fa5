import MethodBinding.Proofs.Attribute.Writing
import MethodBinding.Proofs.Descriptor.Sources
import MethodBinding.Proofs.Host.Shape

/-!
# Generated host functions fit

The parameters of an annotated function are described four times: by their types in the signature,
by the parameters of the generated host function, by the arguments that it passes on, and by the
type of the functions of the shape that the descriptor names. The four are one sequence of kinds
(`Expansion.Fits`), for every signature that is accepted (`generated_host_fits`). What the generated
code says is read off its tokens.
-/

namespace MethodBinding

open Attribute Code

/-! ## Drafts whose counts fit -/

/-- A draft with as many mandatory arguments as slots, no other arguments and the usual check is
never refused because of its shape. -/
theorem Draft.build_ne_of_slots {d : Draft} {host : HostFunction} (hhost : d.host = some host)
    (hslots : ∀ slots, host.shape.Slots slots → d.required.toInt = slots)
    (hopt : d.optional = 0) (hrest : d.rest = false) (hchecking : d.checking = .byDefault)
    (name : String) (shape : HostShape) :
    (∀ reason, d.build ≠ .error (.shapeMismatch name shape reason)) ∧
      d.build ≠ .error (.uncheckedFixedArity name shape) := by
  constructor
  · intro reason h
    obtain ⟨_, hfault, -⟩ := build_eq_error_iff.1 h
    cases hfault with
    | optionalOrRest _ _ hmore =>
      rw [hopt, hrest] at hmore
      exact absurd hmore (by decide)
    | unfilled hother hs _ hne =>
      rw [hhost] at hother
      cases hother
      exact hne (hslots _ hs)
  · intro h
    obtain ⟨_, hfault, -⟩ := build_eq_error_iff.1 h
    cases hfault with
    | uncheckedFixedArity _ _ _ hoff =>
      rw [hchecking] at hoff
      cases hoff

namespace Attribute

/-! ## Kinds and what is inferred from them -/

namespace Inferred

variable {i : Inferred} {kinds : List ParamKind}

/-- The host functions of a shape take parameters of these kinds, as was inferred. -/
structure Describes (i : Inferred) (kinds : List ParamKind) (shape : HostShape) : Prop where
  parameters : shape.parameters = kinds
  behaviour : ∀ m : Type → Type, shape.BehaviourIn m = FunctionOf m kinds
  context : shape.takesContext = i.context
  slots : shape.slots? = i.slots

/-- What is inferred from kinds leads back to them. -/
structure Fits (i : Inferred) (kinds : List ParamKind) : Prop where
  host : i.hostParameters.map (·.kind) = kinds
  distinct : (i.hostParameters.map (·.name)).Nodup
  describes : i.Describes kinds i.shape

theorem Reads.fits (h : i.Reads kinds) : i.Fits kinds := by
  have describes (hkinds : i.shape.parameters = kinds) (hcontext : i.shape.takesContext = i.context)
      (hslots : i.shape.slots? = i.slots) : i.Describes kinds i.shape :=
    ⟨hkinds, fun m => hkinds ▸ HostShape.behaviourIn_eq m _, hcontext, hslots⟩
  -- With at most three values, the signatures are as many as there are shapes.
  cases h with
  | withContext h =>
    cases h with
    | @values _ n hn => interval_cases n <;> exact ⟨rfl, by decide, describes rfl rfl rfl⟩
    | slice => exact ⟨rfl, by decide, describes rfl rfl rfl⟩
    | sliceAndBlock => exact ⟨rfl, by decide, describes rfl rfl rfl⟩
  | withoutContext h =>
    cases h with
    | @values _ n hn => interval_cases n <;> exact ⟨rfl, by decide, describes rfl rfl rfl⟩
    | slice => exact ⟨rfl, by decide, describes rfl rfl rfl⟩

end Inferred

/-! ## Generated code -/

/-- The properties say nothing about arguments. -/
structure Properties.LeavesArguments (p : Properties) : Prop where
  required : p.required = none
  optional : p.optional = none
  rest : p.rest = false
  checkArity : p.checkArity = none

/-- The parameters of a generated host function, each with a name and the tokens of its type, are
of these kinds, and no two have one name. -/
structure ParametersFit (parameters : List (String × List Token)) (kinds : List ParamKind) :
    Prop where
  distinct : (parameters.map (·.1)).Nodup
  typed : List.Forall₂ (fun p kind => ∃ t : TypeExpr, t.WrittenAs p.2 ∧ t.HasKind kind)
    parameters kinds

/-- The generated code fits the annotated function and the adapter. The parameters of the function
are of these kinds. The code has a host function with parameters of these kinds, which it passes on
to the function, each of them once and in order; and it gives this host function to the draft as one
of a shape whose host functions take parameters of these kinds. -/
structure Expansion.Fits (e : Expansion) (kinds : List ParamKind) : Prop where
  annotated : List.Forall₂ TypeExpr.HasKind e.function.parameters kinds
  generated : ∃ (parameters : List (String × List Token)) (chain : List (List Token))
      (variant : String) (front : List Token),
    ParametersFit parameters kinds ∧
    List.Forall₂ Call.WrittenAs e.calls chain ∧
    (∃ shape : HostShape, shape.IsVariant variant ∧ e.inferred.Describes kinds shape) ∧
    e.tokens = front ++ [.opening .brace] ++
      descriptorBody (hostFunction e.function.name parameters) e.methodName chain variant ++
      [.closing .brace]

namespace Expansion

variable {e : Expansion} {kinds : List ParamKind}

theorem parametersFit (h : e.inferred.Reads kinds) :
    ParametersFit (e.inferred.hostParameters.map fun p => (p.name, p.kind.tokens)) kinds where
  distinct := by
    rw [List.map_map]
    exact h.fits.distinct
  typed := by
    rw [← h.fits.host, List.forall₂_map_left_iff, List.forall₂_map_right_iff, List.forall₂_same]
    intro p _
    exact p.kind.tokens_writtenAs

theorem fits_of_reads (hkinds : List.Forall₂ TypeExpr.HasKind e.function.parameters kinds)
    (h : e.inferred.Reads kinds) : e.Fits kinds where
  annotated := hkinds
  generated := by
    have hchain : List.Forall₂ Call.WrittenAs e.calls (e.calls.map Call.tokens) := by
      rw [List.forall₂_map_right_iff, List.forall₂_same]
      exact fun c _ => c.tokens_writtenAs
    have htokens := e.tokens_eq
    rw [hostTokens_eq] at htokens
    exact ⟨_, _, _, _, parametersFit h, hchain,
      ⟨_, e.inferred.shape.isVariant_variant, h.fits.describes⟩, htokens⟩

/-- The chain of calls builds the draft of the entry that says the same. -/
theorem build?_eq_draft (hp : e.properties.LeavesArguments) (h : e.inferred.Reads kinds)
    (symbol : String) :
    e.build? symbol = some ((e.properties.entry e.function symbol none
      (.ofNat (e.inferred.slots.getD 0)) 0).draft ⟨symbol, e.inferred.shape⟩
        (e.properties.visibility.getD .unset)).build := by
  have hreq : countOf? (e.properties.requiredCount e.inferred.slots) =
      some (.ofNat (e.inferred.slots.getD 0)) := by
    rw [countOf?_requiredCount fun n => h.slots_le, Properties.required?, hp.required]
  have hopt : countOf? e.properties.optional = some 0 := by rw [hp.optional]; rfl
  rw [build?_eq hreq hopt, ← ManifestMethod.ofClauses_clauses, Properties.clauses_entry,
    e.methodName_value]
  rfl

theorem build?_of_leavesArguments (hp : e.properties.LeavesArguments) (h : e.inferred.Reads kinds)
    (symbol : String) :
    ∃ r, e.build? symbol = some r ∧ ∀ name shape,
      (∀ reason, r ≠ .error (.shapeMismatch name shape reason)) ∧
        r ≠ .error (.uncheckedFixedArity name shape) := by
  refine ⟨_, build?_eq_draft hp h symbol, fun name shape =>
    Draft.build_ne_of_slots rfl ?_ rfl hp.rest ?_ name shape⟩
  · intro slots hslots
    have hsome : e.inferred.slots = some slots :=
      h.fits.describes.slots ▸ HostShape.slots?_eq_some_iff.2 hslots
    have hle := h.slots_le hsome
    simp only [ManifestMethod.draft, Properties.entry, hsome, Option.getD_some]
    interval_cases slots <;> rfl
  · simp only [ManifestMethod.draft, Properties.entry, hp.checkArity]

end Expansion

/-- **Generated host functions fit.** For every signature that is accepted, the attribute expands to
code in which the parameters of the annotated function, those of the generated host function and
those of the host functions of the named shape are of the same kinds in the same order, and each
parameter is passed on once. The shape takes a context and has slots as inferred. So, unless the
attribute itself says something about arguments, the descriptor is never refused because the shape
cannot represent the counts or because its slots go unchecked. -/
theorem generated_host_fits {f : Function} {i : Inferred} (hi : f.infer = .ok i) (p : Properties) :
    expand p f = .ok ⟨f, p, i⟩ ∧
    (∃ kinds, Expansion.Fits ⟨f, p, i⟩ kinds) ∧
    (p.LeavesArguments → ∀ symbol, ∃ r, Expansion.build? ⟨f, p, i⟩ symbol = some r ∧
      ∀ name shape, (∀ reason, r ≠ .error (.shapeMismatch name shape reason)) ∧
        r ≠ .error (.uncheckedFixedArity name shape)) := by
  obtain ⟨kinds, hkinds, hreads⟩ := Function.reads_of_infer hi
  refine ⟨?_, ⟨kinds, Expansion.fits_of_reads hkinds hreads⟩, fun hp symbol =>
    Expansion.build?_of_leavesArguments hp hreads symbol⟩
  rw [expand, hi]
  rfl

/-- A function of a context, the receiver and two values. -/
def clampFunction : Function :=
  ⟨"clamp", [], false, [], none,
    [.reference none false (.path false ["CallContext"] none), valueReference, valueReference,
      valueReference]⟩

theorem clamp_generated_host_fits :
    clampFunction.infer = .ok ⟨true, some 2, false⟩ ∧ ({} : Properties).LeavesArguments ∧
    ∃ e, expand {} clampFunction = .ok e ∧ e.inferred.shape = .contextFixed2 ∧
      e.Fits [.context, .value, .value, .value] ∧
      ∃ d, e.build? "clamp" = some (.ok d) ∧ d.required = 2 := by
  have hi : clampFunction.infer = .ok ⟨true, some 2, false⟩ := rfl
  obtain ⟨he, ⟨kinds, hfits⟩, -⟩ := generated_host_fits hi {}
  obtain rfl : [.context, .value, .value, .value] = kinds :=
    Except.ok.inj (kindsOf_eq_ok_iff.2 hfits.annotated)
  exact ⟨hi, ⟨rfl, rfl, rfl, rfl⟩, _, he, rfl, hfits, _, rfl, rfl⟩

end Attribute

end MethodBinding
