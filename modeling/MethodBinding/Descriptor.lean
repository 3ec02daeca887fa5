import MethodBinding.Descriptor.Draft

/-!
# Descriptors

A `Descriptor` is the checked metadata of one host function: the names it answers to, how many
arguments it takes, its declared visibility and scope, and the version it is for. What a draft is
checked for is part of the type, so a descriptor cannot be made in any other way than one that
passes the checks. `Draft.build` is the checked way from a draft.
-/

namespace MethodBinding

/-- The checked metadata of one host function. -/
structure Descriptor where
  name : String
  aliases : List String
  required : UInt64
  optional : UInt64
  rest : Bool
  checking : Checking
  visibility : DeclaredVisibility
  moduleScope : Bool
  metaScope : Bool
  tag : Option VersionTag
  host : HostFunction
  /-- No name is empty. -/
  named : "" ∉ name :: aliases
  /-- No name is declared twice. -/
  distinct : (name :: aliases).Nodup
  /-- The counts come from signed words. -/
  small : required.toNat < Draft.countLimit ∧ optional.toNat < Draft.countLimit
  /-- The host function can represent the counts. -/
  fits : host.shape.countFault? required optional rest = none
  /-- Slots are only filled after the arguments have been counted. -/
  checked : host.shape.hasSlots = true → checking.isOn = true
  /-- The singleton-only scope excludes the other two. -/
  scopes : metaScope = true → moduleScope = false ∧ visibility ≠ .moduleFunction
deriving DecidableEq

namespace Descriptor

/-- The primary name followed by the other names. -/
def names (d : Descriptor) : List String := d.name :: d.aliases

/-- Installed in the table of the module and in that of its singleton class. -/
def isModuleMethod (d : Descriptor) : Bool := d.moduleScope || d.visibility == .moduleFunction

/-- The bounds of the method, and whether they are enforced. -/
def policy (d : Descriptor) : ArityPolicy :=
  .resolve d.required d.optional d.rest d.checking

end Descriptor

namespace Draft

/-! ## What a draft without fault satisfies -/

/-- A count without fault is below the limit when it is read as an unsigned word. -/
theorem small_of_countFault? {name : String} {field : CountField} {count : Int64}
    (h : countFault? name field count = none) : count.toUInt64.toNat < countLimit := by
  have nonneg : 0 ≤ count := by
    by_cases hc : count < 0
    · simp [countFault?, hc] at h
    · exact Int64.not_lt.1 hc
  have top := count.toInt_lt
  rw [Int64.toNat_toUInt64_of_le nonneg, ← Int64.toNat_toInt, countLimit]
  omega

/-- A draft without fault has distinct, non-empty names, small counts and a host function. -/
theorem faultless {d : Draft} (h : d.fault? = none) :
    "" ∉ d.names ∧ d.names.Nodup ∧ countFault? d.name .required d.required = none ∧
      countFault? d.name .optional d.optional = none ∧
      ∃ host, d.host = some host ∧ d.hostFault? host = none := by
  unfold fault? at h
  split at h
  · cases h
  split at h
  · cases h
  next empty _ unrepeated =>
    simp only [Option.or_eq_none_iff] at h
    obtain ⟨required, optional, host⟩ := h
    refine ⟨empty, firstRepeat?_eq_none_iff.1 unrepeated, required, optional, ?_⟩
    cases hh : d.host with
    | none => simp [hh] at host
    | some f => exact ⟨f, rfl, by simpa [hh] using host⟩

theorem host_isSome {d : Draft} (h : d.fault? = none) : d.host.isSome = true := by
  obtain ⟨_, hh, _⟩ := (faultless h).2.2.2.2
  simp [hh]

/-- The host function of a draft without fault represents its counts, fills slots only after a
check, and the scopes agree. -/
theorem hostFaultless {d : Draft} (h : d.fault? = none) :
    ((d.host.get (host_isSome h)).shape.countFault? d.required.toUInt64 d.optional.toUInt64 d.rest
        = none) ∧
      ((d.host.get (host_isSome h)).shape.hasSlots = true → d.checking.isOn = true) ∧
      (d.metaScope = true → d.moduleScope = false ∧ d.visibility ≠ .moduleFunction) := by
  obtain ⟨host, hh, hf⟩ := (faultless h).2.2.2.2
  simp only [hh, Option.get_some]
  unfold hostFault? at hf
  split at hf
  · cases hf
  split at hf
  · cases hf
  split at hf
  · cases hf
  next counts slots scope =>
    refine ⟨counts, ?_, ?_⟩ <;> simp_all

/-- The descriptor that a draft without fault describes. -/
def descriptor (d : Draft) (h : d.fault? = none) : Descriptor where
  name := d.name
  aliases := d.aliases
  required := d.required.toUInt64
  optional := d.optional.toUInt64
  rest := d.rest
  checking := d.checking
  visibility := d.visibility
  moduleScope := d.moduleScope
  metaScope := d.metaScope
  tag := d.tag
  host := d.host.get (host_isSome h)
  named := (faultless h).1
  distinct := (faultless h).2.1
  small := ⟨small_of_countFault? (faultless h).2.2.1, small_of_countFault? (faultless h).2.2.2.1⟩
  fits := (hostFaultless h).1
  checked := (hostFaultless h).2.1
  scopes := (hostFaultless h).2.2

/-- The descriptor that a draft describes, or the first fault of the draft. -/
def build (d : Draft) : Except DescriptorError Descriptor :=
  match h : d.fault? with
  | some fault => .error fault
  | none => .ok (d.descriptor h)

end Draft

end MethodBinding
