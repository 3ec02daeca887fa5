import MethodBinding.Proofs.Descriptor.Validation

/-!
# The bounds of a descriptor do not overflow

The upper bound of a method is the sum of two unsigned words, which may wrap for arbitrary words. A
descriptor has its counts from a draft, where they are signed words: each is below
`Draft.countLimit`, so their sum still is a word (`Descriptor.counts_le`, `Descriptor.toNat_add`).
The bounds are therefore the declared integers, and some number of arguments lies within them
(`arity_never_overflows`).
-/

namespace MethodBinding

namespace Descriptor

variable (x : Descriptor)

theorem counts_le : x.required.toNat + x.optional.toNat ≤ UInt64.size - 2 := by
  obtain ⟨hreq, hopt⟩ := x.small
  have hlimit : Draft.countLimit = 9223372036854775808 := rfl
  have hsize : UInt64.size = 18446744073709551616 := rfl
  omega

theorem toNat_add : (x.required + x.optional).toNat = x.required.toNat + x.optional.toNat := by
  have hle := x.counts_le
  have hsize : UInt64.size = 18446744073709551616 := rfl
  rw [UInt64.toNat_add]
  exact Nat.mod_eq_of_lt (by omega)

/-- Without the limit on counts the sum may wrap, and then nothing lies within the bounds. -/
example : (ArityPolicy.resolve 1 18446744073709551615 false .byDefault).arity = ⟨1, some 0⟩ := rfl

theorem policy_min : x.policy.arity.min = x.required := by
  unfold policy ArityPolicy.resolve
  cases x.rest <;> rfl

theorem policy_max :
    x.policy.arity.max = if x.rest = true then none else some (x.required + x.optional) := by
  unfold policy ArityPolicy.resolve
  cases x.rest <;> rfl

/-- The accepted numbers of arguments, where sums are those of natural numbers. -/
theorem policy_accepts_iff {count : Nat} :
    x.policy.arity.accepts count = true ↔
      x.required.toNat ≤ count ∧
        (x.rest = false → count ≤ x.required.toNat + x.optional.toNat) := by
  rw [Arity.accepts_iff, policy_min, policy_max, ← toNat_add]
  cases x.rest <;> simp

end Descriptor

/-- **Bounds never overflow.** If a descriptor is built from a draft, whatever signed words its
counts are, the sum of the two counts is a word and no more than the largest word less one. The
lower bound is the number of mandatory arguments. There is no upper bound exactly if further
arguments are taken; otherwise it is the sum of the declared counts, which is not below the lower
one. What is accepted are the integers from the one to the other, or all from the lower bound on,
and there are some. -/
theorem arity_never_overflows {d : Draft} {x : Descriptor} (h : d.build = .ok x) :
    x.required.toNat + x.optional.toNat ≤ UInt64.size - 2 ∧
    (x.required + x.optional).toNat = x.required.toNat + x.optional.toNat ∧
    (x.policy.arity.min.toNat : Int) = d.required.toInt ∧
    (x.policy.arity.max = none ↔ d.rest = true) ∧
    (∀ most, x.policy.arity.max = some most →
      (most.toNat : Int) = d.required.toInt + d.optional.toInt ∧ x.policy.arity.min ≤ most) ∧
    (∀ count : Nat, x.policy.arity.accepts count = true ↔
      d.required.toInt ≤ count ∧
        (d.rest = false → (count : Int) ≤ d.required.toInt + d.optional.toInt)) ∧
    ∃ count, x.policy.arity.accepts count = true := by
  obtain ⟨hf, rfl⟩ := Draft.build_eq_ok_iff.1 h
  have hrec := Draft.records_descriptor hf
  generalize d.descriptor hf = x at hrec
  have hreq := hrec.required
  have hopt := hrec.optional
  refine ⟨x.counts_le, x.toNat_add, ?_, ?_, ?_, ?_, ?_⟩
  · rw [x.policy_min]
    exact hreq
  · rw [x.policy_max, ← hrec.rest]
    cases x.rest <;> simp
  · intro most hmost
    rw [x.policy_max, Option.ite_none_left_eq_some] at hmost
    obtain ⟨-, hsum⟩ := hmost
    cases hsum
    rw [x.policy_min, UInt64.le_iff_toNat_le, x.toNat_add]
    omega
  · intro count
    rw [x.policy_accepts_iff, hrec.rest]
    refine and_congr ?_ (imp_congr_right fun _ => ?_) <;> omega
  · refine ⟨x.required.toNat, x.policy_accepts_iff.2 ⟨Nat.le_refl _, fun _ => ?_⟩⟩
    exact Nat.le_add_right _ _

/-- The greatest counts that can be declared. -/
def widestDraft : Draft :=
  Draft.ofClauses "all" [.required 9223372036854775807, .optional 9223372036854775807,
    .host ⟨"all", .args⟩]

def widestDescriptor : Descriptor := widestDraft.descriptor (by decide)

theorem widest_never_overflows :
    widestDraft.build = .ok widestDescriptor ∧
      widestDescriptor.required.toNat + widestDescriptor.optional.toNat = UInt64.size - 2 ∧
      ∀ count : Nat, widestDescriptor.policy.arity.accepts count = true ↔
        9223372036854775807 ≤ (count : Int) ∧ (count : Int) ≤ 18446744073709551614 := by
  have hb : widestDraft.build = .ok widestDescriptor :=
    Draft.build_eq_ok_iff.2 ⟨by decide, rfl⟩
  have hreq : widestDraft.required.toInt = 9223372036854775807 := by decide
  have hopt : widestDraft.optional.toInt = 9223372036854775807 := by decide
  obtain ⟨-, -, -, -, -, haccepts, -⟩ := arity_never_overflows hb
  refine ⟨hb, by decide, fun count => ?_⟩
  rw [haccepts, hreq, hopt]
  exact and_congr_right fun _ => ⟨fun hle => hle rfl, fun hle _ => hle⟩

end MethodBinding
