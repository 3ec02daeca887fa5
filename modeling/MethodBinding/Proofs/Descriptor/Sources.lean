import MethodBinding.Attribute.Expansion
import MethodBinding.Proofs.Attribute.Signature

/-!
# Two sources of descriptors

A descriptor comes from the attribute on a function or from an entry of a manifest.
`Properties.entry` restates what an expanded attribute says as an entry, and the two give the same
descriptor or the same error (`attribute_agrees_with_manifest`).

Both take up clauses in a draft, and two things differ between them. The entry always has both
counts, where an absent count of the attribute is the zero of a fresh draft (`foldl_countClauses`);
and the entry names its host function before the other clauses, which makes no difference to them
(`Draft.foldl_host`).
-/

namespace MethodBinding

/-! ## The order of clauses -/

namespace Draft

/-- The host function may be named before any clause about something else. -/
theorem add_host_comm {c : Clause} (hc : ∀ host, c ≠ .host host) (d : Draft)
    (host : HostFunction) : (d.add c).add (.host host) = (d.add (.host host)).add c := by
  cases c with
  | host other => exact absurd rfl (hc other)
  | _ => rfl

theorem foldl_host {clauses : List Clause} (hclauses : ∀ c ∈ clauses, ∀ host, c ≠ .host host)
    (d : Draft) (host : HostFunction) :
    (clauses ++ [Clause.host host]).foldl add d = clauses.foldl add (d.add (.host host)) := by
  induction clauses generalizing d with
  | nil => rfl
  | cons c clauses ih =>
    obtain ⟨hc, hclauses⟩ := List.forall_mem_cons.1 hclauses
    rw [List.cons_append, List.foldl_cons, ih hclauses, add_host_comm hc, List.foldl_cons]

end Draft

/-! ## Entries of a manifest -/

/-- An entry whose symbol is known, and whose names of shape and visibility are in order, is built
from its clauses. -/
theorem ManifestMethod.descriptor_eq {m : ManifestMethod} {registry : HostRegistry}
    {host : HostFunction} {visibility : Option DeclaredVisibility}
    (hhost : registry.find? m.symbol = some host)
    (hshape : ∀ name, m.shape = some name → name = host.shape.name)
    (hvis : m.visibility = visibility.map (·.name)) :
    m.descriptor registry = (Draft.ofClauses m.name (m.clauses host visibility)).build := by
  have hnamed : m.shape = none ∨ m.shape = some host.shape.name := by
    cases hs : m.shape with
    | none => exact .inl rfl
    | some name =>
      rw [hshape name hs]
      exact .inr rfl
  have hdeclared : m.declaredVisibility = .ok visibility := by
    cases visibility with
    | none =>
      rw [declaredVisibility, hvis]
      rfl
    | some v => exact declaredVisibility_of_name hvis
  simp only [descriptor, hhost, checkShape_eq_ok hnamed, hdeclared, bind, Except.bind]

namespace Attribute

open Code

variable {p : Properties} {f : Function} {e : Expansion}

/-! ## Counts -/

/-- The count that tokens denote. An absent count is zero. -/
def countOf? : Option (List Token) → Option Int64
  | none => some 0
  | some count => Token.toInt64? count

/-- The number of mandatory arguments: as given, or else that of the slots, of which a slice has
none. -/
def Properties.required? (p : Properties) (slots : Option Nat) : Option Int64 :=
  match p.required with
  | some count => Token.toInt64? count
  | none => some (.ofNat (slots.getD 0))

/-- The count that the chain declares is the one that is meant. -/
theorem countOf?_requiredCount {slots : Option Nat} (hslots : ∀ n, slots = some n → n ≤ 3) :
    countOf? (p.requiredCount slots) = p.required? slots := by
  unfold Properties.required? Properties.requiredCount
  cases p.required with
  | some count => rfl
  | none =>
    cases slots with
    | none => rfl
    | some n =>
      have := hslots n rfl
      interval_cases n <;> rfl

/-- What the call for a count says, when the count is known. -/
def countClauses (count : Option (List Token)) (clause : Int64 → Clause) (n : Int64) :
    List Clause :=
  if count.isSome then [clause n] else []

theorem mapM_countCall {call : List Token → Call} {clause : Int64 → Clause}
    (hcall : ∀ ts, (call ts).clause? = (Token.toInt64? ts).map clause)
    (count : Option (List Token)) :
    (count.map call).toList.mapM Call.clause? =
      (countOf? count).map (countClauses count clause) := by
  cases count with
  | none => rfl
  | some ts =>
    simp only [Option.map_some, Option.toList_some, List.mapM_cons, List.mapM_nil, hcall, countOf?]
    cases Token.toInt64? ts <;> rfl

/-- A draft with the count of a fresh one need not be told that it is zero. -/
theorem foldl_countClauses {count : Option (List Token)} {n : Int64} (h : countOf? count = some n)
    {clause : Int64 → Clause} {d : Draft} (hd : d.add (clause 0) = d) :
    (countClauses count clause n).foldl Draft.add d = d.add (clause n) := by
  cases count with
  | none =>
    cases h
    exact hd.symm
  | some ts => rfl

/-! ## All other clauses -/

/-- The calls that do not depend on a count. -/
def Properties.plainCalls (p : Properties) : List Call :=
  (if p.rest then [.rest] else []) ++
    (p.checkArity.map .checkArity).toList ++
    (p.visibility.map .visibility).toList ++
    (if p.moduleScope then [.moduleScope] else []) ++
    (if p.metaScope then [.metaScope] else []) ++
    (p.tag.map .tag).toList ++
    p.aliases.map .otherName

/-- What these calls say. -/
def Properties.plainClauses (p : Properties) : List Clause :=
  (if p.rest then [.rest] else []) ++
    (p.checkArity.map .checkArity).toList ++
    (p.visibility.map .visibility).toList ++
    (if p.moduleScope then [.moduleScope] else []) ++
    (if p.metaScope then [.metaScope] else []) ++
    (p.tag.map fun tag => Clause.tag ⟨tag.value⟩).toList ++
    p.aliases.map fun name => .otherName name.value

theorem Properties.calls_eq (p : Properties) (slots : Option Nat) :
    p.calls slots = ((p.requiredCount slots).map .required).toList ++
      ((p.optional.map .optional).toList ++ p.plainCalls) := by
  simp only [calls, plainCalls, List.append_assoc]

theorem mapM_plainCalls (p : Properties) :
    p.plainCalls.mapM Call.clause? = some p.plainClauses := by
  have hmap : p.plainCalls.map Call.clause? = p.plainClauses.map some := by
    simp only [Properties.plainCalls, Properties.plainClauses, List.map_append, List.map_map,
      ← Option.toList_map, Option.map_map, apply_ite (List.map _)]
    rfl
  calc p.plainCalls.mapM Call.clause?
      = (p.plainCalls.map Call.clause?).mapM id := (List.mapM_map (g := id)).symm
    _ = (p.plainClauses.map some).mapM id := by rw [hmap]
    _ = p.plainClauses.mapM fun c => pure (id c) := List.mapM_map
    _ = some p.plainClauses := by rw [List.mapM_pure, List.map_id]; rfl

/-- None of the plain clauses names a host function. -/
theorem ne_host_of_mem_plainClauses {c : Clause} (hc : c ∈ p.plainClauses)
    (host : HostFunction) : c ≠ .host host := by
  rintro rfl
  simp [Properties.plainClauses] at hc

/-! ## The chain and the entry -/

/-- The entry that says the same as an attribute on a function. The symbol is free, and so is
whether the shape is named. -/
def Properties.entry (p : Properties) (f : Function) (symbol : String) (shape : Option String)
    (required optional : Int64) : ManifestMethod where
  name := (p.name.map (·.value)).getD f.name
  symbol := symbol
  shape := shape
  required := required
  optional := optional
  rest := p.rest
  checkArity := p.checkArity
  visibility := p.visibility.map (·.name)
  moduleScope := p.moduleScope
  metaScope := p.metaScope
  tag := p.tag.map (·.value)
  aliases := p.aliases.map (·.value)

theorem Properties.clauses_entry (p : Properties) (f : Function) (symbol : String)
    (shape : Option String) (required optional : Int64) (host : HostFunction) :
    (p.entry f symbol shape required optional).clauses host p.visibility =
      [Clause.required required, Clause.optional optional, Clause.host host] ++
        p.plainClauses := by
  simp only [ManifestMethod.clauses, entry, plainClauses, Option.map_map, List.map_map,
    List.append_assoc]
  rfl

theorem Expansion.methodName_value (e : Expansion) :
    e.methodName.value = (e.properties.name.map (·.value)).getD e.function.name := by
  unfold methodName
  cases e.properties.name <;> rfl

/-- The draft of the chain is that of the entry. -/
theorem draft_eq {slots : Option Nat} {required optional : Int64}
    (hreq : countOf? (p.requiredCount slots) = some required)
    (hopt : countOf? p.optional = some optional) (name : String) (host : HostFunction) :
    Draft.ofClauses name (countClauses (p.requiredCount slots) Clause.required required ++
        (countClauses p.optional Clause.optional optional ++ p.plainClauses) ++
          [Clause.host host]) =
      Draft.ofClauses name ([Clause.required required, Clause.optional optional,
        Clause.host host] ++ p.plainClauses) := by
  unfold Draft.ofClauses
  rw [List.append_assoc, List.foldl_append, foldl_countClauses hreq rfl, List.append_assoc,
    List.foldl_append, foldl_countClauses hopt rfl,
    Draft.foldl_host fun c hc => ne_host_of_mem_plainClauses hc]
  rfl

/-- What is generated for a function. -/
theorem expand_ok (h : expand p f = .ok e) :
    e.function = f ∧ e.properties = p ∧ f.infer = .ok e.inferred := by
  obtain ⟨i, hi, h⟩ := except_bind_eq_ok_iff.1 h
  cases h
  exact ⟨rfl, rfl, hi⟩

/-- The chain of calls builds what the clauses of an entry are built into, if its counts are
literals. -/
theorem Expansion.build?_eq {required optional : Int64}
    (hreq : countOf? (e.properties.requiredCount e.inferred.slots) = some required)
    (hopt : countOf? e.properties.optional = some optional) (symbol : String) :
    e.build? symbol = some (Draft.ofClauses e.methodName.value
      ([Clause.required required, Clause.optional optional,
        Clause.host ⟨symbol, e.inferred.shape⟩] ++ e.properties.plainClauses)).build := by
  have hclauses : e.calls.mapM Call.clause? =
      some (countClauses (e.properties.requiredCount e.inferred.slots) Clause.required required ++
        (countClauses e.properties.optional Clause.optional optional ++
          e.properties.plainClauses)) := by
    rw [calls, Properties.calls_eq, List.mapM_append, List.mapM_append,
      mapM_countCall fun _ => rfl, mapM_countCall fun _ => rfl, mapM_plainCalls, hreq, hopt]
    rfl
  rw [← draft_eq hreq hopt]
  simp only [build?, hclauses]
  rfl

/-- **The attribute and the manifest agree.** Let the attribute on a function expand, with counts
that are literals. Running the generated code gives the same descriptor, or the same error, as the
entry of a manifest that says the same, if the symbol of the entry is that of the generated host
function and the entry names the shape of the function or none. -/
theorem attribute_agrees_with_manifest (he : expand p f = .ok e) {required optional : Int64}
    (hreq : p.required? e.inferred.slots = some required)
    (hopt : countOf? p.optional = some optional) {registry : HostRegistry} {symbol host : String}
    (hhost : registry.find? symbol = some ⟨host, e.inferred.shape⟩) {shape : Option String}
    (hshape : ∀ name, shape = some name → name = e.inferred.shape.name) :
    e.build? host =
      some ((p.entry f symbol shape required optional).descriptor registry) := by
  obtain ⟨rfl, rfl, hinfer⟩ := expand_ok he
  obtain ⟨kinds, -, hreads⟩ := Function.reads_of_infer hinfer
  have hchain : countOf? (e.properties.requiredCount e.inferred.slots) = some required := by
    rw [countOf?_requiredCount fun n => hreads.slots_le, hreq]
  rw [Expansion.build?_eq hchain hopt, ManifestMethod.descriptor_eq hhost hshape rfl,
    Properties.clauses_entry, e.methodName_value]
  rfl

/-- A module function of one argument, under two names, for one version. -/
def sqrtItems : List Item :=
  [{ path := ["alias"], argument := .value (.text "root") },
    { path := ["visibility"], argument := .value (.word "module_function") },
    { path := ["compat"], argument := .value (.text "2.0") }]

def sqrtProperties : Properties where
  visibility := some .moduleFunction
  tag := some "2.0"
  aliases := ["root"]

def valueReference : TypeExpr := .reference none false (.path false ["Value"] none)

def sqrtFunction : Function :=
  ⟨"sqrt", [], false, [], none, [valueReference, valueReference]⟩

def sqrtExpansion : Expansion := ⟨sqrtFunction, sqrtProperties, ⟨false, some 1, false⟩⟩

def sqrtRegistry : HostRegistry := NameMap.empty.insert "math.sqrt" ⟨"sqrt", .fixed1⟩

theorem sqrt_agrees_with_manifest :
    Properties.ofItems sqrtItems = .ok sqrtProperties ∧
    expand sqrtProperties sqrtFunction = .ok sqrtExpansion ∧
    sqrtProperties.required? (some 1) = some 1 ∧ countOf? sqrtProperties.optional = some 0 ∧
    sqrtRegistry.find? "math.sqrt" = some ⟨"sqrt", .fixed1⟩ ∧
    sqrtExpansion.build? "sqrt" = some ((sqrtProperties.entry sqrtFunction "math.sqrt"
      (some "fixed1") 1 0).descriptor sqrtRegistry) ∧
    ∃ d, sqrtExpansion.build? "sqrt" = some (.ok d) ∧ d.names = ["sqrt", "root"] ∧
      d.required = 1 := by
  have he : expand sqrtProperties sqrtFunction = .ok sqrtExpansion := rfl
  have hreq : sqrtProperties.required? (some 1) = some 1 := rfl
  have hopt : countOf? sqrtProperties.optional = some 0 := rfl
  have hhost : sqrtRegistry.find? "math.sqrt" = some ⟨"sqrt", .fixed1⟩ := rfl
  refine ⟨rfl, he, hreq, hopt, hhost,
    attribute_agrees_with_manifest he hreq hopt hhost fun name hname => ?_, _, rfl, rfl, rfl⟩
  cases hname
  rfl

end Attribute

end MethodBinding
