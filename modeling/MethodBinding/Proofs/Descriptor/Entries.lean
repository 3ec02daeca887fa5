import MethodBinding.Manifest
import MethodBinding.Proofs.Descriptor.Validation
import Mathlib.Data.List.Forall2

/-!
# What comes of the entries of a manifest

`ManifestMethod.Yields` says what comes of an entry when host functions have been registered one
after the other: the first thing that is wrong with what it names, or else what its draft is built
into. Every entry yields something (`ManifestMethod.exists_yields`), and it is what is computed
(`ManifestMethod.Yields.descriptor_eq`), so the relation is the function
(`ManifestMethod.descriptor_eq_iff`). The draft of an entry has all its fields at once, where the
entry takes up clauses only for the fields that are there (`ManifestMethod.ofClauses_clauses`).

A manifest goes through its entries in order and stops at the first error (`manifest_exact`).
-/

namespace MethodBinding

variable {registrations : List (String × HostFunction)} {symbol : String} {host : HostFunction}
  {m : ManifestMethod} {v : DeclaredVisibility} {e : DescriptorError}

/-! ## Registered host functions -/

/-- The registry after these registrations. -/
def HostRegistry.ofRegistrations (registrations : List (String × HostFunction)) : HostRegistry :=
  NameMap.empty.insertMany registrations

/-- This host function is the last that was registered under the symbol. -/
def LastRegistered (registrations : List (String × HostFunction)) (symbol : String)
    (host : HostFunction) : Prop :=
  ∃ before after, registrations = before ++ (symbol, host) :: after ∧
    ∀ later ∈ after, later.1 ≠ symbol

theorem find?_ofRegistrations (registrations : List (String × HostFunction)) (symbol : String) :
    (HostRegistry.ofRegistrations registrations).find? symbol =
      (registrations.reverse.find? (·.1 == symbol)).map (·.2) := by
  rw [HostRegistry.ofRegistrations, NameMap.find?_insertMany, NameMap.find?_empty, Option.or_none]

theorem find?_ofRegistrations_eq_some_iff :
    (HostRegistry.ofRegistrations registrations).find? symbol = some host ↔
      LastRegistered registrations symbol host := by
  rw [find?_ofRegistrations, Option.map_eq_some_iff]
  constructor
  · rintro ⟨⟨name, _⟩, hfind, rfl⟩
    obtain ⟨hname, after, before, hrev, hafter⟩ := List.find?_eq_some_iff_append.1 hfind
    obtain rfl : name = symbol := by simpa using hname
    refine ⟨before.reverse, after.reverse, ?_, fun later hlater => ?_⟩
    · rw [← List.reverse_reverse registrations, hrev]
      simp
    · simpa using hafter later (List.mem_reverse.1 hlater)
  · rintro ⟨before, after, rfl, hafter⟩
    refine ⟨(symbol, host), List.find?_eq_some_iff_append.2 ?_, rfl⟩
    refine ⟨beq_self_eq_true symbol, after.reverse, before.reverse, by simp, fun later hlater => ?_⟩
    simpa using hafter later (List.mem_reverse.1 hlater)

theorem find?_ofRegistrations_eq_none_iff :
    (HostRegistry.ofRegistrations registrations).find? symbol = none ↔
      ∀ host, (symbol, host) ∉ registrations := by
  rw [find?_ofRegistrations, Option.map_eq_none_iff, List.find?_eq_none]
  constructor
  · intro h host hmem
    exact h (symbol, host) (List.mem_reverse.2 hmem) (beq_self_eq_true symbol)
  · rintro h ⟨name, host⟩ hmem hname
    obtain rfl : name = symbol := by simpa using hname
    exact h host (List.mem_reverse.1 hmem)

/-! ## The draft of an entry -/

/-- What an entry says about its method, given its host function and visibility. -/
def ManifestMethod.draft (m : ManifestMethod) (host : HostFunction) (v : DeclaredVisibility) :
    Draft where
  name := m.name
  aliases := m.aliases
  required := m.required
  optional := m.optional
  rest := m.rest
  checking := match m.checkArity with
    | none => .byDefault
    | some true => .enabled
    | some false => .disabled
  visibility := v
  moduleScope := m.moduleScope
  metaScope := m.metaScope
  tag := m.tag.map VersionTag.mk
  host := some host

section
variable {α β : Type} (part : Clause → Option β)

theorem filterMap_if (b : Bool) (c : Clause) :
    (if b then [c] else []).filterMap part = if b then (part c).toList else [] := by
  cases b with
  | false => rfl
  | true => cases hc : part c <;> simp [hc]

theorem filterMap_toList_map (clause : α → Clause) (o : Option α) :
    (o.map clause).toList.filterMap part = (o.bind fun a => part (clause a)).toList := by
  cases o with
  | none => rfl
  | some a => cases ha : part (clause a) <;> simp [ha]

end

theorem ManifestMethod.filterMap_clauses (visibility : Option DeclaredVisibility) {β : Type}
    (part : Clause → Option β) :
    (m.clauses host visibility).filterMap part =
      (part (.required m.required)).toList ++ (part (.optional m.optional)).toList ++
        (part (.host host)).toList ++ (if m.rest then (part .rest).toList else []) ++
        (m.checkArity.bind fun enabled => part (.checkArity enabled)).toList ++
        (visibility.bind fun v => part (.visibility v)).toList ++
        (if m.moduleScope then (part .moduleScope).toList else []) ++
        (if m.metaScope then (part .metaScope).toList else []) ++
        (m.tag.bind fun tag => part (.tag ⟨tag⟩)).toList ++
        m.aliases.filterMap fun name => part (.otherName name) := by
  have hone (c : Clause) : [c].filterMap part = (part c).toList := filterMap_if part true c
  have hcounts : [Clause.required m.required, .optional m.optional, .host host] =
      [.required m.required] ++ [.optional m.optional] ++ [.host host] := rfl
  simp only [clauses, hcounts, List.filterMap_append, hone, filterMap_if, filterMap_toList_map,
    List.filterMap_map]
  rfl

theorem ManifestMethod.ofClauses_clauses (m : ManifestMethod)
    (visibility : Option DeclaredVisibility) :
    Draft.ofClauses m.name (m.clauses host visibility) =
      m.draft host (visibility.getD .unset) := by
  rw [Draft.ofClauses_eq_said]
  simp only [Draft.said, draft, lastSaid, filterMap_clauses, Draft.mk.injEq, Clause.required?,
    Clause.optional?, Clause.checking?, Clause.visibility?, Clause.tag?, Clause.host?,
    Clause.otherName?, List.filterMap_none]
  refine ⟨trivial, ?aliases, ?required, ?optional, ?rest, ?checking, ?visibility, ?moduleScope,
    ?metaScope, ?tag, ?host⟩
  case aliases | required | optional | host => simp
  case rest | moduleScope | metaScope => simp [clauses]
  case checking =>
    rcases m.checkArity with _ | _ | _ <;> simp
  case visibility => cases visibility <;> simp
  case tag => cases m.tag <;> simp

/-! ## What an entry yields -/

/-- A declared visibility, where none is the same as an unset one. -/
def ManifestMethod.Declares (m : ManifestMethod) (v : DeclaredVisibility) : Prop :=
  m.visibility = some v.name ∨ m.visibility = none ∧ v = .unset

/-- What comes of an entry: the first thing that is wrong with what it names, or else whatever its
draft is built into. -/
inductive ManifestMethod.Yields (registrations : List (String × HostFunction))
    (m : ManifestMethod) : Except DescriptorError Descriptor → Prop where
  | unknownSymbol (h : ∀ host, (m.symbol, host) ∉ registrations) :
      Yields registrations m (.error (.unknownSymbol m.symbol))
  | unknownShape {host : HostFunction} {text : String}
      (hhost : LastRegistered registrations m.symbol host) (htext : m.shape = some text)
      (h : ∀ shape : HostShape, shape.name ≠ text) :
      Yields registrations m (.error (.unknownShape text))
  | otherShape {host : HostFunction} {shape : HostShape}
      (hhost : LastRegistered registrations m.symbol host) (hshape : m.shape = some shape.name)
      (h : shape ≠ host.shape) :
      Yields registrations m (.error (.shapeMismatch m.name host.shape
        ("does not match declared shape " ++ shape.name)))
  | unknownVisibility {host : HostFunction} {text : String}
      (hhost : LastRegistered registrations m.symbol host)
      (hshape : m.shape = none ∨ m.shape = some host.shape.name) (htext : m.visibility = some text)
      (h : ∀ v : DeclaredVisibility, v.name ≠ text) :
      Yields registrations m (.error (.unknownVisibility text))
  | built {host : HostFunction} {v : DeclaredVisibility}
      (hhost : LastRegistered registrations m.symbol host)
      (hshape : m.shape = none ∨ m.shape = some host.shape.name) (hvisibility : m.Declares v) :
      Yields registrations m (m.draft host v).build

section
variable {α : Type} {all : List α} {name : α → String} {text : String}
  (hname : ∀ a, all.find? (name · == name a) = some a)
include hname

/-- Among things with names of their own, a text stands for the one that has it as its name. -/
theorem find?_name_eq_some_iff {a : α} : all.find? (name · == text) = some a ↔ name a = text := by
  constructor
  · intro h
    simpa using List.find?_some h
  · rintro rfl
    exact hname a

theorem find?_name_eq_none_iff : all.find? (name · == text) = none ↔ ∀ a, name a ≠ text := by
  constructor
  · intro h a ha
    rw [(find?_name_eq_some_iff hname).2 ha] at h
    cases h
  · intro h
    cases hf : all.find? (name · == text) with
    | none => rfl
    | some a => exact absurd ((find?_name_eq_some_iff hname).1 hf) (h a)

end

theorem HostShape.ofName_eq_ok_iff {text : String} {shape : HostShape} :
    ofName text = .ok shape ↔ shape.name = text := by
  rw [← find?_name_eq_some_iff ofName?_name, ofName, ofName?]
  cases all.find? (·.name == text) <;> simp

theorem HostShape.ofName_eq_error_iff {text : String} :
    ofName text = .error e ↔ (∀ shape : HostShape, shape.name ≠ text) ∧ e = .unknownShape text := by
  rw [← find?_name_eq_none_iff ofName?_name, ofName, ofName?]
  cases all.find? (·.name == text) <;> simp [eq_comm]

theorem DeclaredVisibility.ofName_eq_ok_iff {text : String} {v : DeclaredVisibility} :
    ofName text = .ok v ↔ v.name = text := by
  rw [← find?_name_eq_some_iff ofName?_name, ofName, ofName?]
  cases all.find? (·.name == text) <;> simp

theorem DeclaredVisibility.ofName_eq_error_iff {text : String} :
    ofName text = .error e ↔
      (∀ v : DeclaredVisibility, v.name ≠ text) ∧ e = .unknownVisibility text := by
  rw [← find?_name_eq_none_iff ofName?_name, ofName, ofName?]
  cases all.find? (·.name == text) <;> simp [eq_comm]

namespace ManifestMethod

theorem checkShape_of_name {shape : HostShape} (h : m.shape = some shape.name) :
    m.checkShape host =
      if shape = host.shape then .ok ()
      else .error (.shapeMismatch m.name host.shape
        ("does not match declared shape " ++ shape.name)) := by
  have hname : HostShape.ofName shape.name = .ok shape := HostShape.ofName_eq_ok_iff.2 rfl
  simp only [checkShape, h, hname]
  rfl

theorem checkShape_of_unknown {text : String} (h : m.shape = some text)
    (hno : ∀ shape : HostShape, shape.name ≠ text) :
    m.checkShape host = .error (.unknownShape text) := by
  have hname : HostShape.ofName text = .error (.unknownShape text) :=
    HostShape.ofName_eq_error_iff.2 ⟨hno, rfl⟩
  simp only [checkShape, h, hname]
  rfl

theorem declaredVisibility_of_name {v : DeclaredVisibility} (h : m.visibility = some v.name) :
    m.declaredVisibility = .ok (some v) := by
  have hname : DeclaredVisibility.ofName v.name = .ok v := DeclaredVisibility.ofName_eq_ok_iff.2 rfl
  simp only [declaredVisibility, h, hname]
  rfl

theorem declaredVisibility_of_unknown {text : String} (h : m.visibility = some text)
    (hno : ∀ v : DeclaredVisibility, v.name ≠ text) :
    m.declaredVisibility = .error (.unknownVisibility text) := by
  have hname : DeclaredVisibility.ofName text = .error (.unknownVisibility text) :=
    DeclaredVisibility.ofName_eq_error_iff.2 ⟨hno, rfl⟩
  simp only [declaredVisibility, h, hname]
  rfl

theorem checkShape_eq_ok (h : m.shape = none ∨ m.shape = some host.shape.name) :
    m.checkShape host = .ok () := by
  rcases h with h | h
  · rw [checkShape, h]
  · rw [checkShape_of_name h, if_pos rfl]

theorem Declares.declaredVisibility_eq (h : m.Declares v) :
    ∃ visibility, m.declaredVisibility = .ok visibility ∧ visibility.getD .unset = v := by
  rcases h with h | ⟨h, rfl⟩
  · exact ⟨some v, declaredVisibility_of_name h, rfl⟩
  · exact ⟨none, by rw [declaredVisibility, h], rfl⟩

theorem Yields.descriptor_eq {r : Except DescriptorError Descriptor}
    (h : m.Yields registrations r) :
    m.descriptor (.ofRegistrations registrations) = r := by
  cases h with
  | unknownSymbol h =>
    rw [descriptor, find?_ofRegistrations_eq_none_iff.2 h]
  | unknownShape hhost htext h =>
    simp only [descriptor, find?_ofRegistrations_eq_some_iff.2 hhost, checkShape_of_unknown htext h]
    rfl
  | otherShape hhost hshape h =>
    simp only [descriptor, find?_ofRegistrations_eq_some_iff.2 hhost, checkShape_of_name hshape,
      if_neg h]
    rfl
  | unknownVisibility hhost hshape htext h =>
    simp only [descriptor, find?_ofRegistrations_eq_some_iff.2 hhost, checkShape_eq_ok hshape,
      declaredVisibility_of_unknown htext h]
    rfl
  | built hhost hshape hvisibility =>
    obtain ⟨visibility, heq, rfl⟩ := hvisibility.declaredVisibility_eq
    simp only [descriptor, find?_ofRegistrations_eq_some_iff.2 hhost, checkShape_eq_ok hshape, heq,
      ← ofClauses_clauses]
    rfl

theorem exists_yields (registrations : List (String × HostFunction)) (m : ManifestMethod) :
    ∃ r, m.Yields registrations r := by
  cases hfind : (HostRegistry.ofRegistrations registrations).find? m.symbol with
  | none => exact ⟨_, .unknownSymbol (find?_ofRegistrations_eq_none_iff.1 hfind)⟩
  | some host =>
    have hhost := find?_ofRegistrations_eq_some_iff.1 hfind
    -- The shape is in order, or the entry yields an error that is about it.
    by_cases hshape : m.shape = none ∨ m.shape = some host.shape.name
    · by_cases hvisibility : ∃ v, m.Declares v
      · obtain ⟨v, hv⟩ := hvisibility
        exact ⟨_, .built hhost hshape hv⟩
      · cases htext : m.visibility with
        | none => exact absurd ⟨.unset, .inr ⟨htext, rfl⟩⟩ hvisibility
        | some text =>
          refine ⟨_, .unknownVisibility hhost hshape htext fun v hv => hvisibility ⟨v, .inl ?_⟩⟩
          rw [htext, hv]
    · cases htext : m.shape with
      | none => exact absurd (.inl htext) hshape
      | some text =>
        by_cases hknown : ∃ shape : HostShape, shape.name = text
        · obtain ⟨shape, rfl⟩ := hknown
          refine ⟨_, .otherShape hhost htext fun heq => hshape (.inr ?_)⟩
          rw [htext, heq]
        · exact ⟨_, .unknownShape hhost htext fun shape hs => hknown ⟨shape, hs⟩⟩

theorem descriptor_eq_iff {r : Except DescriptorError Descriptor} :
    m.descriptor (.ofRegistrations registrations) = r ↔ m.Yields registrations r := by
  constructor
  · rintro rfl
    obtain ⟨r, hr⟩ := exists_yields registrations m
    rwa [hr.descriptor_eq]
  · exact Yields.descriptor_eq

/-- The draft of an entry has a host function. -/
theorem Yields.ne_missingHost {name : String} :
    ¬m.Yields registrations (.error (.missingHost name)) := by
  intro h
  generalize hr : Except.error (DescriptorError.missingHost name) = r at h
  cases h with
  | built hhost hshape hvisibility =>
    exact Draft.ne_missingHost rfl name (Draft.build_eq_error_iff.1 hr.symm)
  | _ => cases hr

end ManifestMethod

/-! ## All entries -/

section
variable {α β ε : Type} {f : α → Except ε β} {l : List α}

theorem except_bind_eq_ok_iff {r : Except ε α} {b : β} :
    (r >>= f) = .ok b ↔ ∃ a, r = .ok a ∧ f a = .ok b := by
  cases r with
  | error fault =>
    constructor
    · intro h
      cases h
    · rintro ⟨a, ha, -⟩
      cases ha
  | ok a =>
    constructor
    · intro h
      exact ⟨a, rfl, h⟩
    · rintro ⟨a, ha, h⟩
      cases ha
      exact h

theorem mapM_eq_ok_iff {bs : List β} :
    l.mapM f = .ok bs ↔ List.Forall₂ (fun a b => f a = .ok b) l bs := by
  induction l generalizing bs with
  | nil =>
    rw [List.mapM_nil, List.forall₂_nil_left_iff]
    exact ⟨fun h => (Except.ok.inj h).symm, fun h => h ▸ rfl⟩
  | cons a l ih =>
    rw [List.mapM_cons, List.forall₂_cons_left_iff, except_bind_eq_ok_iff]
    constructor
    · rintro ⟨b, hb, h⟩
      obtain ⟨rest, hrest, h⟩ := except_bind_eq_ok_iff.1 h
      cases h
      exact ⟨b, rest, hb, ih.1 hrest, rfl⟩
    · rintro ⟨b, rest, hb, hrest, rfl⟩
      exact ⟨b, hb, except_bind_eq_ok_iff.2 ⟨rest, ih.2 hrest, rfl⟩⟩

/-- The first error is the one that counts. -/
theorem mapM_eq_error_iff {e : ε} :
    l.mapM f = .error e ↔ ∃ before a after, l = before ++ a :: after ∧
      (∀ b ∈ before, ∃ c, f b = .ok c) ∧ f a = .error e := by
  induction l with
  | nil =>
    constructor
    · intro h
      cases h
    · rintro ⟨before, a, after, hl, -, -⟩
      exact absurd hl.symm (List.append_ne_nil_of_right_ne_nil _ (List.cons_ne_nil _ _))
  | cons a l ih =>
    rw [List.mapM_cons]
    constructor
    · intro h
      cases ha : f a with
      | error e' =>
        rw [ha] at h
        cases h
        exact ⟨[], a, l, rfl, by simp, ha⟩
      | ok b =>
        cases hl : l.mapM f with
        | ok rest =>
          rw [ha, hl] at h
          cases h
        | error e' =>
          rw [ha, hl] at h
          cases h
          obtain ⟨before, x, after, rfl, hbefore, hx⟩ := ih.1 hl
          refine ⟨a :: before, x, after, rfl, ?_, hx⟩
          rw [List.forall_mem_cons]
          exact ⟨⟨b, ha⟩, hbefore⟩
    · rintro ⟨before, x, after, hsplit, hbefore, hx⟩
      cases before with
      | nil =>
        obtain ⟨rfl, rfl⟩ := List.cons.inj hsplit
        rw [hx]
        rfl
      | cons first before =>
        obtain ⟨rfl, rfl⟩ := List.cons.inj hsplit
        obtain ⟨⟨b, hb⟩, hbefore⟩ := List.forall_mem_cons.1 hbefore
        rw [hb, ih.2 ⟨before, x, after, rfl, hbefore, hx⟩]
        rfl

end

theorem exists_forall₂_iff {α β : Type} {R : α → β → Prop} {l : List α} :
    (∃ bs, List.Forall₂ R l bs) ↔ ∀ a ∈ l, ∃ b, R a b := by
  induction l with
  | nil => simp
  | cons a l ih =>
    rw [List.forall_mem_cons, ← ih]
    constructor
    · rintro ⟨bs, h⟩
      cases h with
      | cons hb hrest => exact ⟨⟨_, hb⟩, _, hrest⟩
    · rintro ⟨⟨b, hb⟩, bs, hrest⟩
      exact ⟨b :: bs, .cons hb hrest⟩

/-- **Manifests are translated faithfully, and as a whole.** With the host functions registered in
this order, an entry yields just one thing; a manifest gives the descriptors of all its entries in
order, if each entry has one, and otherwise the error of the first entry that has none. That there
is no host function is never the error. -/
theorem manifest_exact (registrations : List (String × HostFunction)) (manifest : Manifest) :
    (∀ m r, ManifestMethod.descriptor m (.ofRegistrations registrations) = r ↔
      m.Yields registrations r) ∧
    (∀ ds, manifest.descriptors (.ofRegistrations registrations) = .ok ds ↔
      List.Forall₂ (fun m d => m.Yields registrations (.ok d)) manifest.methods ds) ∧
    ((∃ ds, manifest.descriptors (.ofRegistrations registrations) = .ok ds) ↔
      ∀ m ∈ manifest.methods, ∃ d, m.Yields registrations (.ok d)) ∧
    (∀ e, manifest.descriptors (.ofRegistrations registrations) = .error e ↔
      ∃ before m after, manifest.methods = before ++ m :: after ∧
        (∀ b ∈ before, ∃ d, b.Yields registrations (.ok d)) ∧
        m.Yields registrations (.error e)) ∧
    ∀ name, manifest.descriptors (.ofRegistrations registrations) ≠ .error (.missingHost name) := by
  have hok : ∀ ds, manifest.descriptors (.ofRegistrations registrations) = .ok ds ↔
      List.Forall₂ (fun m d => m.Yields registrations (.ok d)) manifest.methods ds := by
    intro ds
    simp only [Manifest.descriptors, mapM_eq_ok_iff, ManifestMethod.descriptor_eq_iff]
  have herror : ∀ e, manifest.descriptors (.ofRegistrations registrations) = .error e ↔
      ∃ before m after, manifest.methods = before ++ m :: after ∧
        (∀ b ∈ before, ∃ d, b.Yields registrations (.ok d)) ∧
        m.Yields registrations (.error e) := by
    intro e
    simp only [Manifest.descriptors, mapM_eq_error_iff, ManifestMethod.descriptor_eq_iff]
  refine ⟨fun m r => ManifestMethod.descriptor_eq_iff, hok, ?_, herror, ?_⟩
  · simp only [hok, exists_forall₂_iff]
  · intro name h
    obtain ⟨before, m, after, -, -, hm⟩ := (herror _).1 h
    exact hm.ne_missingHost

example :
    let sqrt : ManifestMethod := ⟨"sqrt", "math.sqrt", some "fixed1", 1, 0, false, none,
      some "unset", false, false, none, []⟩
    let pi : ManifestMethod := ⟨"pi", "math.pi", none, 0, 0, false, none, none, true, false, none,
      ["tau", "tau"]⟩
    (Manifest.mk "Math" [sqrt, pi]).descriptors (.ofRegistrations
        [("math.sqrt", ⟨"sqrt", .args⟩), ("math.pi", ⟨"pi", .receiver⟩),
          ("math.sqrt", ⟨"sqrt", .fixed1⟩)]) =
      .error (.duplicateAlias "pi" "tau") := rfl

end MethodBinding
