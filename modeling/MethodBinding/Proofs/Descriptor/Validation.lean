import MethodBinding.Descriptor
import MethodBinding.Proofs.Host.Shape
import Mathlib.Data.List.Induction

/-!
# Validation of descriptors is exact

A draft takes up clauses one after the other. What it says in the end can be read off the clauses
part by part (`Draft.said`): the last count, visibility, version or host function that was named,
whether a flag was ever set, and all other names in order.

`Draft.Fault` lists what can be wrong with a draft, in the order in which it is reported. The tests
of a draft decide the faults place by place (`Draft.test_iff`), and its first fault is that of the
first test that fails (`Draft.fault?_eq_some_iff`). So a draft is built exactly if it has no fault,
and otherwise the first one is reported (`build_exact`).
-/

namespace MethodBinding

/-! ## What clauses say -/

namespace Clause

def required? : Clause → Option Int64
  | required count => some count
  | _ => none

def optional? : Clause → Option Int64
  | optional count => some count
  | _ => none

def checking? : Clause → Option Checking
  | checkArity enabled => some (if enabled then .enabled else .disabled)
  | _ => none

def visibility? : Clause → Option DeclaredVisibility
  | visibility declared => some declared
  | _ => none

def tag? : Clause → Option VersionTag
  | tag version => some version
  | _ => none

def otherName? : Clause → Option String
  | otherName name => some name
  | _ => none

def host? : Clause → Option HostFunction
  | host function => some function
  | _ => none

end Clause

/-- What the last of the clauses about something says, if there is one. -/
def lastSaid {α : Type} (part : Clause → Option α) (clauses : List Clause) : Option α :=
  (clauses.filterMap part).getLast?

theorem lastSaid_concat {α : Type} (part : Clause → Option α) (clauses : List Clause)
    (c : Clause) : lastSaid part (clauses ++ [c]) = (part c).or (lastSaid part clauses) := by
  rw [lastSaid, List.filterMap_append]
  cases hc : part c with
  | none => simp [lastSaid, hc]
  | some a => simp [hc]

namespace Draft

variable {d : Draft} {e : DescriptorError} {place : Nat}

/-- What clauses say about a method of this name, each part by itself. -/
def said (name : String) (clauses : List Clause) : Draft where
  name := name
  aliases := clauses.filterMap Clause.otherName?
  required := (lastSaid Clause.required? clauses).getD 0
  optional := (lastSaid Clause.optional? clauses).getD 0
  rest := decide (.rest ∈ clauses)
  checking := (lastSaid Clause.checking? clauses).getD .byDefault
  visibility := (lastSaid Clause.visibility? clauses).getD .unset
  moduleScope := decide (.moduleScope ∈ clauses)
  metaScope := decide (.metaScope ∈ clauses)
  tag := lastSaid Clause.tag? clauses
  host := lastSaid Clause.host? clauses

theorem said_concat (name : String) (clauses : List Clause) (c : Clause) :
    said name (clauses ++ [c]) = (said name clauses).add c := by
  simp only [said, lastSaid_concat, List.filterMap_append]
  cases c <;>
    simp [add, Checking.ofBool, Clause.otherName?, Clause.required?, Clause.optional?,
      Clause.checking?, Clause.visibility?, Clause.tag?, Clause.host?]

/-- Taking up clauses one after the other comes to what they say. -/
theorem ofClauses_eq_said (name : String) (clauses : List Clause) :
    ofClauses name clauses = said name clauses := by
  induction clauses using List.reverseRecOn with
  | nil => rfl
  | append_singleton clauses c ih =>
    rw [said_concat, ← ih, ofClauses, List.foldl_append]
    rfl

/-! ## Faults -/

/-- A fault of a draft, with the place that it has in the order of reporting. -/
inductive Fault (d : Draft) : Nat → DescriptorError → Prop where
  | emptyName (h : "" ∈ d.name :: d.aliases) : Fault d 0 .emptyName
  /-- The first of the other names that is the name or an earlier one. -/
  | duplicateAlias {before : List String} {again : String} {after : List String}
      (h : d.aliases = before ++ again :: after) (hagain : again = d.name ∨ again ∈ before)
      (hfirst : (d.name :: before).Nodup) : Fault d 1 (.duplicateAlias d.name again)
  | negativeRequired (h : d.required < 0) :
      Fault d 2 (.negativeCount d.name .required d.required)
  | negativeOptional (h : d.optional < 0) :
      Fault d 3 (.negativeCount d.name .optional d.optional)
  | missingHost (h : d.host = none) : Fault d 4 (.missingHost d.name)
  /-- Slots admit neither optional nor further arguments. -/
  | optionalOrRest {host : HostFunction} {slots : Nat} (h : d.host = some host)
      (hslots : host.shape.Slots slots) (hmore : 0 < d.optional ∨ d.rest = true) :
      Fault d 5 (.shapeMismatch d.name host.shape "cannot accept optional or rest arguments")
  /-- The mandatory arguments do not fill the slots. -/
  | unfilled {host : HostFunction} {slots : Nat} (h : d.host = some host)
      (hslots : host.shape.Slots slots) (hno : ¬(0 < d.optional ∨ d.rest = true))
      (hne : d.required.toInt ≠ slots) :
      Fault d 5 (.shapeMismatch d.name host.shape
        ("takes exactly " ++ toString slots ++ " argument(s) but " ++
          toString d.required.toInt.toNat ++ " are required"))
  | uncheckedFixedArity {host : HostFunction} {slots : Nat} (h : d.host = some host)
      (hslots : host.shape.Slots slots) (hpos : 0 < slots)
      (hoff : d.checking = .disabled) : Fault d 6 (.uncheckedFixedArity d.name host.shape)
  | conflictingScope (hmeta : d.metaScope = true)
      (h : d.moduleScope = true ∨ d.visibility = .moduleFunction) :
      Fault d 7 (.conflictingScope d.name)

/-- The fault that comes first in the order of reporting. -/
def FirstFault (d : Draft) (e : DescriptorError) : Prop :=
  ∃ place, d.Fault place e ∧ ∀ place' e', d.Fault place' e' → place ≤ place'

/-! ## Tests -/

/-- The tests that a draft has to pass, in order. A test that fails gives the fault. -/
def test (d : Draft) : Nat → Option DescriptorError
  | 0 => if "" ∈ d.names then some .emptyName else none
  | 1 => (firstRepeat? d.names).map (.duplicateAlias d.name ·)
  | 2 => countFault? d.name .required d.required
  | 3 => countFault? d.name .optional d.optional
  | 4 => if d.host.isNone then some (.missingHost d.name) else none
  | 5 => d.host.bind fun host =>
    (host.shape.countFault? d.required.toUInt64 d.optional.toUInt64 d.rest).map fun fault =>
      .shapeMismatch d.name host.shape fault.reason
  | 6 => d.host.bind fun host =>
    if host.shape.hasSlots && !d.checking.isOn then some (.uncheckedFixedArity d.name host.shape)
    else none
  | 7 =>
    if d.metaScope && (d.moduleScope || d.visibility == .moduleFunction) then
      some (.conflictingScope d.name)
    else none
  | _ => none

theorem hostFault?_eq {host : HostFunction} (h : d.host = some host) :
    d.hostFault? host = (d.test 5).or ((d.test 6).or (d.test 7)) := by
  simp only [hostFault?, test, h, Option.bind_some]
  cases host.shape.countFault? d.required.toUInt64 d.optional.toUInt64 d.rest with
  | some fault => rfl
  | none =>
    dsimp only [Option.map_none, Option.none_or]
    split
    · rfl
    · rfl

/-- The first fault of a draft comes from the first test that fails. -/
theorem fault?_eq_findSome? (d : Draft) : d.fault? = (List.range 8).findSome? d.test := by
  have htests : (List.range 8).findSome? d.test =
      (d.test 0).or ((d.test 1).or ((d.test 2).or ((d.test 3).or
        ((d.test 4).or ((d.test 5).or ((d.test 6).or (d.test 7))))))) := by
    rw [show List.range 8 = [0, 1, 2, 3, 4, 5, 6, 7] from rfl]
    simp only [List.findSome?_cons, List.findSome?_nil]
    cases d.test 0 <;> cases d.test 1 <;> cases d.test 2 <;> cases d.test 3 <;>
      cases d.test 4 <;> cases d.test 5 <;> cases d.test 6 <;> cases d.test 7 <;> rfl
  rw [htests]
  by_cases hempty : "" ∈ d.names
  · have h0 : d.test 0 = some .emptyName := if_pos hempty
    rw [h0, fault?, if_pos hempty]
    rfl
  have h0 : d.test 0 = none := if_neg hempty
  rw [h0, Option.none_or, fault?, if_neg hempty]
  cases hr : firstRepeat? d.names with
  | some name =>
    have h1 : d.test 1 = some (.duplicateAlias d.name name) := by rw [test, hr]; rfl
    rw [h1]
    rfl
  | none =>
    have h1 : d.test 1 = none := by rw [test, hr]; rfl
    rw [h1, Option.none_or]
    cases hh : d.host with
    | none =>
      have h4 : d.test 4 = some (.missingHost d.name) := by rw [test, hh]; rfl
      rw [h4]
      rfl
    | some host =>
      have h4 : d.test 4 = none := by rw [test, hh]; rfl
      rw [h4, Option.none_or, ← hostFault?_eq hh]
      rfl

/-! ## Each test decides the faults of its place -/

theorem test_names : d.test 0 = some e ↔ d.Fault 0 e := by
  rw [test, Option.ite_none_right_eq_some]
  constructor
  · rintro ⟨hempty, he⟩
    cases he
    exact .emptyName hempty
  · intro h
    cases h with
    | emptyName hempty => exact ⟨hempty, rfl⟩

/-- The first repetition among the names is never the first name, so it is among the other ones. -/
theorem test_repeat : d.test 1 = some e ↔ d.Fault 1 e := by
  simp only [test, Option.map_eq_some_iff, firstRepeat?_eq_some_iff]
  constructor
  · rintro ⟨again, ⟨before, after, hnames, hagain, hnodup⟩, rfl⟩
    cases before with
    | nil => cases hagain
    | cons first before =>
      obtain ⟨rfl, haliases⟩ := List.cons.inj hnames
      exact .duplicateAlias haliases (List.mem_cons.1 hagain) hnodup
  · intro h
    cases h with
    | @duplicateAlias before again after haliases hagain hfirst =>
      refine ⟨again, ⟨d.name :: before, after, ?_, List.mem_cons.2 hagain, hfirst⟩, rfl⟩
      rw [names, haliases]
      rfl

/-- A signed word is never too large. -/
theorem countFault?_eq (name : String) (field : CountField) (count : Int64) :
    countFault? name field count =
      if count < 0 then some (.negativeCount name field count) else none := by
  have htop : ¬(UInt64.size : Int) ≤ count.toInt := by
    have := count.toInt_lt
    have hsize : (UInt64.size : Int) = 18446744073709551616 := rfl
    omega
  rw [countFault?, if_neg htop]

theorem test_required : d.test 2 = some e ↔ d.Fault 2 e := by
  rw [test, countFault?_eq, Option.ite_none_right_eq_some]
  constructor
  · rintro ⟨hneg, he⟩
    cases he
    exact .negativeRequired hneg
  · intro h
    cases h with
    | negativeRequired hneg => exact ⟨hneg, rfl⟩

theorem test_optional : d.test 3 = some e ↔ d.Fault 3 e := by
  rw [test, countFault?_eq, Option.ite_none_right_eq_some]
  constructor
  · rintro ⟨hneg, he⟩
    cases he
    exact .negativeOptional hneg
  · intro h
    cases h with
    | negativeOptional hneg => exact ⟨hneg, rfl⟩

theorem test_host : d.test 4 = some e ↔ d.Fault 4 e := by
  rw [test, Option.ite_none_right_eq_some, Option.isNone_iff_eq_none]
  constructor
  · rintro ⟨hnone, he⟩
    cases he
    exact .missingHost hnone
  · intro h
    cases h with
    | missingHost hnone => exact ⟨hnone, rfl⟩

/-- A count that is not negative is the same number as an unsigned word. -/
theorem toNat_toUInt64 {count : Int64} (h : ¬count < 0) :
    (count.toUInt64.toNat : Int) = count.toInt := by
  have hle : 0 ≤ count := Int64.not_lt.1 h
  have hint : 0 ≤ count.toInt := Int64.le_iff_toInt_le.1 hle
  rw [Int64.toNat_toUInt64_of_le hle, ← Int64.toNat_toInt, Int.toNat_of_nonneg hint]

theorem toUInt64_pos {count : Int64} (h : ¬count < 0) : 0 < count.toUInt64 ↔ 0 < count := by
  have hnat := toNat_toUInt64 h
  rw [UInt64.lt_iff_toNat_lt, Int64.lt_iff_toInt_lt, UInt64.toNat_zero, Int64.toInt_zero]
  omega

/-- The shape sees the counts as unsigned words, which are the declared ones if none is negative. -/
theorem test_counts (hreq : ¬d.required < 0) (hopt : ¬d.optional < 0) :
    d.test 5 = some e ↔ d.Fault 5 e := by
  have hfill := toNat_toUInt64 hreq
  have hcount : d.required.toUInt64.toNat = d.required.toInt.toNat := by omega
  have hreason (slots : Nat) : (CountFault.unfilled slots d.required.toUInt64).reason =
      "takes exactly " ++ toString slots ++ " argument(s) but " ++
        toString d.required.toInt.toNat ++ " are required" := by
    rw [← hcount]
    rfl
  simp only [test, Option.bind_eq_some_iff, Option.map_eq_some_iff, HostShape.countFault?,
    toUInt64_pos hopt]
  constructor
  · rintro ⟨host, hhost, fault, hfault, rfl⟩
    split at hfault
    · cases hfault
    next slots hslots =>
    rw [HostShape.slots?_eq_some_iff] at hslots
    split at hfault
    next hmore =>
      cases hfault
      exact .optionalOrRest hhost hslots hmore
    next hno =>
    split at hfault
    next hne =>
      cases hfault
      rw [hreason]
      exact .unfilled hhost hslots hno (by omega)
    · cases hfault
  · intro h
    cases h with
    | @optionalOrRest host slots hhost hslots hmore =>
      refine ⟨host, hhost, .optionalOrRest, ?_, rfl⟩
      simp only [HostShape.slots?_eq_some_iff.2 hslots]
      exact if_pos hmore
    | @unfilled host slots hhost hslots hno hne =>
      refine ⟨host, hhost, .unfilled slots d.required.toUInt64, ?_, ?_⟩
      · simp only [HostShape.slots?_eq_some_iff.2 hslots]
        exact (if_neg hno).trans (if_pos (by omega))
      · rw [hreason]

theorem test_checking : d.test 6 = some e ↔ d.Fault 6 e := by
  have hoff : d.checking.isOn = false ↔ d.checking = .disabled := by
    cases d.checking <;> simp [Checking.isOn]
  simp only [test, Option.bind_eq_some_iff, Option.ite_none_right_eq_some, Bool.and_eq_true,
    Bool.not_eq_true', hoff, HostShape.hasSlots_iff]
  constructor
  · rintro ⟨host, hhost, ⟨⟨slots, hslots, hpos⟩, hdisabled⟩, he⟩
    cases he
    exact .uncheckedFixedArity hhost hslots hpos hdisabled
  · intro h
    cases h with
    | uncheckedFixedArity hhost hslots hpos hdisabled =>
      exact ⟨_, hhost, ⟨⟨_, hslots, hpos⟩, hdisabled⟩, rfl⟩

theorem test_scope : d.test 7 = some e ↔ d.Fault 7 e := by
  simp only [test, Option.ite_none_right_eq_some, Bool.and_eq_true, Bool.or_eq_true, beq_iff_eq]
  constructor
  · rintro ⟨⟨hmeta, hother⟩, he⟩
    cases he
    exact .conflictingScope hmeta hother
  · intro h
    cases h with
    | conflictingScope hmeta hother => exact ⟨⟨hmeta, hother⟩, rfl⟩

/-- A test that is reached decides the faults of its place. -/
theorem test_iff {place : Nat} (hbefore : ∀ q < place, d.test q = none) :
    d.test place = some e ↔ d.Fault place e := by
  match place with
  | 0 => exact test_names
  | 1 => exact test_repeat
  | 2 => exact test_required
  | 3 => exact test_optional
  | 4 => exact test_host
  | 5 =>
    -- The counts have been found not to be negative on the way.
    have hreq : ¬d.required < 0 := fun hneg => by
      have := test_required.2 (.negativeRequired hneg)
      rw [hbefore 2 (by decide)] at this
      cases this
    have hopt : ¬d.optional < 0 := fun hneg => by
      have := test_optional.2 (.negativeOptional hneg)
      rw [hbefore 3 (by decide)] at this
      cases this
    exact test_counts hreq hopt
  | 6 => exact test_checking
  | 7 => exact test_scope
  | n + 8 =>
    constructor
    · intro h
      cases h
    · intro h
      cases h

/-- The test of a place before which there is no fault is reached. -/
theorem test_eq_none {place : Nat} (h : ∀ q < place, ∀ e, ¬d.Fault q e) :
    ∀ q < place, d.test q = none := by
  intro q
  induction q using Nat.strongRecOn with
  | ind q ih =>
    intro hq
    have hbefore : ∀ r < q, d.test r = none := fun r hr => ih r hr (Nat.lt_trans hr hq)
    cases ht : d.test q with
    | none => rfl
    | some e => exact absurd ((test_iff hbefore).1 ht) (h q hq e)

theorem findSome?_range {α : Type} {f : Nat → Option α} {n : Nat} {a : α} :
    (List.range n).findSome? f = some a ↔
      ∃ place < n, f place = some a ∧ ∀ q < place, f q = none := by
  induction n with
  | zero => simp
  | succ n ih =>
    rw [List.range_succ, List.findSome?_append, Option.or_eq_some_iff, ih]
    constructor
    · rintro (⟨place, hlt, hplace⟩ | ⟨hnone, hlast⟩)
      · exact ⟨place, Nat.lt_succ_of_lt hlt, hplace⟩
      · rw [List.findSome?_eq_none_iff] at hnone
        have hn : f n = some a := by simpa using hlast
        exact ⟨n, Nat.lt_succ_self n, hn, fun q hq => hnone q (List.mem_range.2 hq)⟩
    · rintro ⟨place, hlt, hplace, hbefore⟩
      rcases Nat.lt_succ_iff_lt_or_eq.1 hlt with hlt | rfl
      · exact .inl ⟨place, hlt, hplace, hbefore⟩
      · refine .inr ⟨List.findSome?_eq_none_iff.2 fun q hq => hbefore q (List.mem_range.1 hq), ?_⟩
        simp [hplace]

/-- The fault that is reported is the first one. -/
theorem fault?_eq_some_iff : d.fault? = some e ↔ d.FirstFault e := by
  rw [fault?_eq_findSome?, findSome?_range]
  constructor
  · rintro ⟨place, -, htest, hbefore⟩
    refine ⟨place, (test_iff hbefore).1 htest, fun q e' hfault => ?_⟩
    by_contra hlt
    have hq : q < place := Nat.lt_of_not_le hlt
    have := (test_iff fun r hr => hbefore r (Nat.lt_trans hr hq)).2 hfault
    rw [hbefore q hq] at this
    cases this
  · rintro ⟨place, hfault, hfirst⟩
    have hbefore : ∀ q < place, d.test q = none :=
      test_eq_none fun q hq e' hfault' => Nat.not_le_of_lt hq (hfirst q e' hfault')
    have hlt : place < 8 := by cases hfault <;> decide
    exact ⟨place, hlt, (test_iff hbefore).2 hfault, hbefore⟩

/-- Nothing is reported exactly if there is no fault. -/
theorem fault?_eq_none_iff : d.fault? = none ↔ ∀ place e, ¬d.Fault place e := by
  constructor
  · intro h place
    rw [fault?_eq_findSome?, List.findSome?_eq_none_iff] at h
    intro e hfault
    have hlt : place < 8 := by cases hfault <;> decide
    have htest := (test_iff fun q hq => h q (List.mem_range.2 (Nat.lt_trans hq hlt))).2 hfault
    rw [h place (List.mem_range.2 hlt)] at htest
    cases htest
  · intro h
    cases hf : d.fault? with
    | none => rfl
    | some e =>
      obtain ⟨place, hfault, -⟩ := fault?_eq_some_iff.1 hf
      exact absurd hfault (h place e)

theorem ne_missingHost (hhost : d.host.isSome = true) (name : String) :
    ¬d.FirstFault (.missingHost name) := by
  rintro ⟨place, hfault, -⟩
  cases hfault with
  | missingHost hnone => simp [hnone] at hhost

/-! ## Building -/

theorem build_eq_error_iff : d.build = .error e ↔ d.FirstFault e := by
  rw [← fault?_eq_some_iff]
  unfold build
  split
  next fault hfault => rw [hfault, Option.some.injEq, Except.error.injEq]
  next hnone => simp [hnone]

theorem build_eq_ok_iff {x : Descriptor} :
    d.build = .ok x ↔ ∃ h : d.fault? = none, d.descriptor h = x := by
  unfold build
  split
  next fault hfault => simp [hfault]
  next hnone => simp [hnone]

end Draft

/-- What a descriptor says about a method is what the draft says, with names that are not empty and
differ. -/
structure Descriptor.Records (x : Descriptor) (d : Draft) : Prop where
  name : x.name = d.name
  aliases : x.aliases = d.aliases
  names : x.names = d.name :: d.aliases
  named : "" ∉ x.names
  distinct : x.names.Nodup
  required : (x.required.toNat : Int) = d.required.toInt
  optional : (x.optional.toNat : Int) = d.optional.toInt
  rest : x.rest = d.rest
  checking : x.checking = d.checking
  visibility : x.visibility = d.visibility
  moduleScope : x.moduleScope = d.moduleScope
  metaScope : x.metaScope = d.metaScope
  isModuleMethod : x.isModuleMethod = true ↔ d.moduleScope = true ∨ d.visibility = .moduleFunction
  tag : x.tag = d.tag
  host : some x.host = d.host

theorem Draft.records_descriptor {d : Draft} (h : d.fault? = none) :
    (d.descriptor h).Records d where
  name := rfl
  aliases := rfl
  names := rfl
  named := (d.descriptor h).named
  distinct := (d.descriptor h).distinct
  required := toNat_toUInt64 fun hneg =>
    fault?_eq_none_iff.1 h _ _ (.negativeRequired hneg)
  optional := toNat_toUInt64 fun hneg =>
    fault?_eq_none_iff.1 h _ _ (.negativeOptional hneg)
  rest := rfl
  checking := rfl
  visibility := rfl
  moduleScope := rfl
  metaScope := rfl
  isModuleMethod := by
    rw [Descriptor.isModuleMethod, Bool.or_eq_true, beq_iff_eq]
    rfl
  tag := rfl
  host := Option.some_get _

/-- **Validation is exact.** Whatever clauses are taken up in whatever order, what they say in the
end decides: if it has a fault, the first one is reported; otherwise a descriptor is built, which
records what was said. A count is never too large. -/
theorem build_exact (name : String) (clauses : List Clause) :
    (∀ e, (Draft.ofClauses name clauses).build = .error e ↔
      (Draft.said name clauses).FirstFault e) ∧
    ((∃ x, (Draft.ofClauses name clauses).build = .ok x) ↔
      ∀ place e, ¬(Draft.said name clauses).Fault place e) ∧
    (∀ x, (Draft.ofClauses name clauses).build = .ok x →
      x.Records (Draft.said name clauses)) ∧
    ∀ about field value,
      (Draft.ofClauses name clauses).build ≠ .error (.countTooLarge about field value) := by
  rw [Draft.ofClauses_eq_said]
  refine ⟨fun e => Draft.build_eq_error_iff, ?_, ?_, ?_⟩
  · rw [← Draft.fault?_eq_none_iff]
    constructor
    · rintro ⟨x, hx⟩
      exact (Draft.build_eq_ok_iff.1 hx).1
    · intro h
      exact ⟨_, Draft.build_eq_ok_iff.2 ⟨h, rfl⟩⟩
  · intro x hx
    obtain ⟨h, rfl⟩ := Draft.build_eq_ok_iff.1 hx
    exact Draft.records_descriptor h
  · intro about field value h
    obtain ⟨place, hfault, -⟩ := Draft.build_eq_error_iff.1 h
    cases hfault

example : (Draft.ofClauses "size" [.otherName "length", .required (-1), .otherName "length",
    .otherName "count"]).build = .error (.duplicateAlias "size" "length") := rfl

end MethodBinding
