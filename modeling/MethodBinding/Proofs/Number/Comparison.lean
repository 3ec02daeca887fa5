import MethodBinding.Number.Double

/-!
# What the words of numbers stand for

A word that is no NaN stands for an infinity, or for a whole multiple of the least positive number
(`Double.number?`). Different words stand for different numbers, the two zeros apart: sign,
exponent and fraction make up the word (`Double.ext_fields`), and a number with a greater exponent
is greater (`Double.units_lt`). So two words are equal by the standard rule exactly if they stand
for the same number (`Double.eq_iff`), and a word equals itself exactly if it is no NaN.
-/

namespace MethodBinding

/-- What a word that is no NaN stands for. Finite numbers are counted in units of the least positive
one, which is two to the power of `-1074`. -/
inductive Extended where
  | infinite (negative : Bool)
  | finite (units : Int)

namespace Double

variable {x y : Double}

/-- The magnitude of a finite number. -/
def units (x : Double) : Nat := x.scaled.1 * Nat.pow 2 (x.scaled.2 + 1074).toNat

def number? (x : Double) : Option Extended :=
  if x.isNaN then none
  else if x.isInfinite then some (.infinite x.negative)
  else some (.finite (if x.negative then -x.units else x.units))

/-! ## Fields -/

theorem fractionField_lt (x : Double) : x.fractionField < hiddenBit := by
  unfold fractionField hiddenBit
  omega

/-- The word put together from its fields. -/
theorem toNat_bits (x : Double) :
    x.bits.toNat = (if x.negative then 0x8000000000000000 else 0) +
      x.exponentField * hiddenBit + x.fractionField := by
  have hlt := x.bits.toNat_lt
  unfold negative exponentField fractionField hiddenBit
  split
  · next h =>
    rw [beq_iff_eq] at h
    omega
  · next h =>
    rw [beq_iff_eq] at h
    omega

theorem ext_fields (hsign : x.negative = y.negative) (hexp : x.exponentField = y.exponentField)
    (hfrac : x.fractionField = y.fractionField) : x = y := by
  have hbits : x.bits.toNat = y.bits.toNat := by
    rw [toNat_bits x, toNat_bits y, hsign, hexp, hfrac]
  cases x
  cases y
  exact congrArg Double.mk (UInt64.toNat_inj.1 hbits)

/-! ## Magnitudes -/

theorem units_of_subnormal (h : x.exponentField = 0) : x.units = x.fractionField := by
  simp [units, scaled, h]

theorem units_of_normal (h : x.exponentField ≠ 0) :
    x.units = (hiddenBit + x.fractionField) * Nat.pow 2 (x.exponentField - 1) := by
  have hexp : ((x.exponentField : Int) - 1075 + 1074).toNat = x.exponentField - 1 := by omega
  simp only [units, scaled, h, if_false, hexp]

theorem lt_of_units (x : Double) : x.units < hiddenBit * Nat.pow 2 x.exponentField := by
  have hfrac := x.fractionField_lt
  by_cases h : x.exponentField = 0
  · rw [units_of_subnormal h, h]
    exact hfrac
  · have hdouble : Nat.pow 2 x.exponentField = 2 * Nat.pow 2 (x.exponentField - 1) := by
      obtain ⟨e, he⟩ := Nat.exists_eq_succ_of_ne_zero h
      rw [he, Nat.succ_sub_one, Nat.mul_comm]
      rfl
    calc x.units = (hiddenBit + x.fractionField) * Nat.pow 2 (x.exponentField - 1) :=
          units_of_normal h
      _ < (hiddenBit * 2) * Nat.pow 2 (x.exponentField - 1) :=
          Nat.mul_lt_mul_of_pos_right (by omega) (Nat.pow_pos (by decide))
      _ = hiddenBit * Nat.pow 2 x.exponentField := by rw [hdouble, Nat.mul_assoc]

theorem le_units (h : x.exponentField ≠ 0) :
    hiddenBit * Nat.pow 2 (x.exponentField - 1) ≤ x.units := by
  rw [units_of_normal h]
  exact Nat.mul_le_mul_right _ (Nat.le_add_right _ _)

/-- A number with a greater exponent is greater. -/
theorem units_lt (h : x.exponentField < y.exponentField) : x.units < y.units := by
  have hne : y.exponentField ≠ 0 := Nat.ne_zero_of_lt h
  calc x.units < hiddenBit * Nat.pow 2 x.exponentField := x.lt_of_units
    _ ≤ hiddenBit * Nat.pow 2 (y.exponentField - 1) :=
        Nat.mul_le_mul_left _ (Nat.pow_le_pow_right (by decide) (by omega))
    _ ≤ y.units := le_units hne

theorem units_inj (h : x.units = y.units) :
    x.exponentField = y.exponentField ∧ x.fractionField = y.fractionField := by
  have hexp : x.exponentField = y.exponentField := by
    rcases Nat.lt_trichotomy x.exponentField y.exponentField with hlt | heq | hgt
    · exact absurd h (Nat.ne_of_lt (units_lt hlt))
    · exact heq
    · exact absurd h.symm (Nat.ne_of_lt (units_lt hgt))
  refine ⟨hexp, ?_⟩
  by_cases h0 : x.exponentField = 0
  · rwa [units_of_subnormal h0, units_of_subnormal (hexp ▸ h0)] at h
  · rw [units_of_normal h0, units_of_normal (hexp ▸ h0), ← hexp] at h
    have hpos : 0 < Nat.pow 2 (x.exponentField - 1) := Nat.pow_pos (by decide)
    exact Nat.add_left_cancel (Nat.eq_of_mul_eq_mul_right hpos h)

theorem isZero_iff : x.isZero = true ↔ x.units = 0 := by
  simp only [isZero, Bool.and_eq_true, beq_iff_eq]
  by_cases h : x.exponentField = 0
  · simp [h, units_of_subnormal h]
  · have hpos : 0 < hiddenBit * Nat.pow 2 (x.exponentField - 1) :=
      Nat.mul_pos (by decide) (Nat.pow_pos (by decide))
    have hle := le_units h
    simp only [h, false_and, false_iff]
    omega

/-! ## Equality -/

theorem number?_isSome : x.number?.isSome = true ↔ x.isNaN = false := by
  unfold number?
  cases x.isNaN <;> cases x.isInfinite <;> simp

/-- A zero stands for zero, whatever its sign. -/
theorem number?_of_isZero (h : x.isZero = true) : x.number? = some (.finite 0) := by
  have hunits := isZero_iff.1 h
  simp only [isZero, Bool.and_eq_true, beq_iff_eq] at h
  have hnan : x.isNaN = false := by simp [isNaN, h.1]
  have hinf : x.isInfinite = false := by simp [isInfinite, h.1]
  simp [number?, hnan, hinf, hunits]

theorem of_number?_infinite {negative : Bool} (h : x.number? = some (.infinite negative)) :
    x.isInfinite = true ∧ x.negative = negative := by
  unfold number? at h
  split at h
  · cases h
  split at h
  next hinf =>
    cases h
    exact ⟨hinf, rfl⟩
  · cases h

theorem of_number?_finite {n : Int} (h : x.number? = some (.finite n)) :
    (if x.negative then -(x.units : Int) else x.units) = n := by
  unfold number? at h
  split at h
  · cases h
  split at h
  · cases h
  · cases h
    rfl

/-- With different signs only zeros have the same value. -/
theorem units_eq_zero (hsign : x.negative ≠ y.negative)
    (h : (if x.negative then -(x.units : Int) else x.units) =
      if y.negative then -(y.units : Int) else y.units) : x.units = 0 ∧ y.units = 0 := by
  have hflip : y.negative = !x.negative := Bool.eq_not.2 (Ne.symm hsign)
  rw [hflip] at h
  cases hneg : x.negative with
  | false =>
    rw [hneg, Bool.not_false, if_pos rfl, if_neg Bool.false_ne_true] at h
    omega
  | true =>
    rw [hneg, Bool.not_true, if_pos rfl, if_neg Bool.false_ne_true] at h
    omega

/-- Words that stand for the same number are the same, or both are zeros. -/
theorem eq_or_zeros_of_number? {n : Extended} (hx : x.number? = some n) (hy : y.number? = some n) :
    x = y ∨ x.isZero = true ∧ y.isZero = true := by
  cases n with
  | infinite negative =>
    obtain ⟨hxinf, hxsign⟩ := of_number?_infinite hx
    obtain ⟨hyinf, hysign⟩ := of_number?_infinite hy
    simp only [isInfinite, Bool.and_eq_true, beq_iff_eq] at hxinf hyinf
    left
    exact ext_fields (hxsign.trans hysign.symm) (hxinf.1.trans hyinf.1.symm)
      (hxinf.2.trans hyinf.2.symm)
  | finite n =>
    have hunits := (of_number?_finite hx).trans (of_number?_finite hy).symm
    by_cases hsign : x.negative = y.negative
    · have hmag : x.units = y.units := by
        rw [hsign] at hunits
        split at hunits <;> omega
      obtain ⟨hexp, hfrac⟩ := units_inj hmag
      exact .inl (ext_fields hsign hexp hfrac)
    · right
      rw [isZero_iff, isZero_iff]
      exact units_eq_zero hsign hunits

/-- Equality is standing for the same number. -/
theorem eq_iff : x.eq y = true ↔ ∃ n, x.number? = some n ∧ y.number? = some n := by
  simp only [eq, Bool.and_eq_true, Bool.or_eq_true, Bool.not_eq_true', beq_iff_eq]
  constructor
  · rintro ⟨⟨hx, -⟩, hbits | ⟨hxz, hyz⟩⟩
    · obtain ⟨n, hn⟩ := Option.isSome_iff_exists.1 (number?_isSome.2 hx)
      have hxy : x = y := by
        cases x
        cases y
        exact congrArg Double.mk hbits
      exact ⟨n, hn, hxy ▸ hn⟩
    · exact ⟨.finite 0, number?_of_isZero hxz, number?_of_isZero hyz⟩
  · rintro ⟨n, hx, hy⟩
    refine ⟨⟨number?_isSome.1 (by rw [hx]; rfl), number?_isSome.1 (by rw [hy]; rfl)⟩, ?_⟩
    rcases eq_or_zeros_of_number? hx hy with rfl | hzeros
    · exact .inl rfl
    · exact .inr hzeros

/-- The two zeros have different words. -/
example : (⟨0⟩ : Double).eq ⟨0x8000000000000000⟩ = true := by decide

theorem eq_symm (h : x.eq y = true) : y.eq x = true := by
  obtain ⟨n, hx, hy⟩ := eq_iff.1 h
  exact eq_iff.2 ⟨n, hy, hx⟩

theorem eq_trans {z : Double} (hxy : x.eq y = true) (hyz : y.eq z = true) : x.eq z = true := by
  obtain ⟨n, hx, hy⟩ := eq_iff.1 hxy
  obtain ⟨m, hy', hz⟩ := eq_iff.1 hyz
  rw [hy, Option.some.injEq] at hy'
  exact eq_iff.2 ⟨n, hx, hy' ▸ hz⟩

theorem eq_self_iff : x.eq x = true ↔ x.isNaN = false := by
  rw [eq_iff, ← number?_isSome, Option.isSome_iff_exists]
  simp

end Double

end MethodBinding
