import MethodBinding.Proofs.Number.Comparison
import MethodBinding.Value

/-!
# Equality of values

Two values are equal if they are of the same kind and their contents are equal, which for arrays
means as many items, pairwise equal (`Value.Matches`, `Value.eq_iff`). What holds of a value if it
holds of its items holds of all values (`Value.item_induction`). So equality is symmetric and
transitive at any depth, and a value equals itself exactly if there is no NaN anywhere inside it
(`Value.eq_self_iff`). Equal values are alike to a reader (`Value.Agrees`).
-/

namespace MethodBinding

namespace Value

variable {a b c : Value} {x : Double}

/-! ## One comparison -/

/-- The same kind and equal contents, if items are compared by `same`. -/
inductive Matches (same : Value → Value → Prop) : Value → Value → Prop where
  | nil : Matches same .nil .nil
  | bool (b : Bool) : Matches same (.bool b) (.bool b)
  | int (n : Int64) : Matches same (.int n) (.int n)
  | float {x y : Double} (h : x.eq y = true) : Matches same (.float x) (.float y)
  | str (s : String) : Matches same (.str s) (.str s)
  | sym (s : String) : Matches same (.sym s) (.sym s)
  | arr {as bs : List Value} (hlen : as.length = bs.length)
      (h : ∀ i (ha : i < as.length) (hb : i < bs.length), same as[i] bs[i]) :
    Matches same (.arr as) (.arr bs)
  | mod (id : ModuleId) : Matches same (.mod id) (.mod id)

theorem eqItems_iff {as bs : List Value} :
    eqItems as bs = true ↔ as.length = bs.length ∧
      ∀ i (ha : i < as.length) (hb : i < bs.length), (as[i] == bs[i]) = true := by
  induction as generalizing bs with
  | nil => cases bs <;> simp [eqItems]
  | cons a as ih =>
    cases bs with
    | nil => simp [eqItems]
    | cons b bs =>
      rw [eqItems, Bool.and_eq_true, ih]
      constructor
      · rintro ⟨hab, hlen, hrest⟩
        refine ⟨congrArg (· + 1) hlen, fun i ha hb => ?_⟩
        cases i with
        | zero => exact hab
        | succ i => exact hrest i (Nat.lt_of_succ_lt_succ ha) (Nat.lt_of_succ_lt_succ hb)
      · rintro ⟨hlen, h⟩
        refine ⟨h 0 (Nat.succ_pos _) (Nat.succ_pos _), Nat.succ.inj hlen, fun i ha hb => ?_⟩
        exact h (i + 1) (Nat.succ_lt_succ ha) (Nat.succ_lt_succ hb)

theorem eq_iff : (a == b) = true ↔ Matches (fun a b => (a == b) = true) a b := by
  show a.eq b = true ↔ _
  constructor
  · intro h
    cases a <;> cases b <;> simp only [eq, beq_iff_eq, Bool.false_eq_true] at h
    case nil.nil => exact .nil
    case bool.bool => exact h ▸ .bool _
    case int.int => exact h ▸ .int _
    case float.float => exact .float h
    case str.str => exact h ▸ .str _
    case sym.sym => exact h ▸ .sym _
    case arr.arr =>
      obtain ⟨hlen, hitems⟩ := eqItems_iff.1 h
      exact .arr hlen hitems
    case mod.mod => exact h ▸ .mod _
  · intro h
    cases h with
    | float h => exact h
    | arr hlen h => exact eqItems_iff.2 ⟨hlen, h⟩
    | _ => simp [eq]

/-! ## Items within items -/

/-- Arrays are nested finitely deep: what passes from the items of every value to the value holds of
all values. -/
theorem item_induction {P : Value → Prop}
    (step : ∀ a, (∀ items, a.items? = some items → ∀ v ∈ items, P v) → P a) (a : Value) : P a := by
  refine step a fun items hitems v hv => ?_
  have hsize : sizeOf v < sizeOf a := by
    cases a with
    | arr all =>
      cases hitems
      have := List.sizeOf_lt_of_mem hv
      rw [arr.sizeOf_spec]
      omega
    | _ => cases hitems
  exact item_induction step v
termination_by sizeOf a

theorem eq_symm (h : (a == b) = true) : (b == a) = true := by
  induction a using item_induction generalizing b with
  | step a ih =>
    rw [eq_iff] at h ⊢
    cases h with
    | nil => exact .nil
    | bool b => exact .bool b
    | int n => exact .int n
    | float h => exact .float (Double.eq_symm h)
    | str s => exact .str s
    | sym s => exact .sym s
    | arr hlen h => exact .arr hlen.symm fun i ha hb => ih _ rfl _ (List.getElem_mem hb) (h i hb ha)
    | mod id => exact .mod id

theorem eq_trans (hab : (a == b) = true) (hbc : (b == c) = true) : (a == c) = true := by
  induction a using item_induction generalizing b c with
  | step a ih =>
    rw [eq_iff] at hab hbc ⊢
    cases hab with
    | float hxy =>
      cases hbc with
      | float hyz => exact .float (Double.eq_trans hxy hyz)
    | arr hlen hab =>
      cases hbc with
      | arr hlen' hbc =>
        refine .arr (hlen.trans hlen') fun i ha hc => ?_
        have hb := hlen ▸ ha
        exact ih _ rfl _ (List.getElem_mem ha) (hab i ha hb) (hbc i hb hc)
    | _ => exact hbc

/-! ## NaN -/

/-- A floating point number stands somewhere inside a value. -/
inductive Holds (x : Double) : Value → Prop where
  | float : Holds x (.float x)
  | item {items : List Value} {v : Value} (hv : v ∈ items) (h : Holds x v) : Holds x (.arr items)

/-- A value equals itself exactly if there is no NaN inside it. -/
theorem eq_self_iff : (a == a) = true ↔ ∀ x, Holds x a → x.isNaN = false := by
  induction a using item_induction with
  | step a ih =>
    rw [eq_iff]
    constructor
    · intro h x hx
      cases hx with
      | float =>
        cases h with
        | float h => exact Double.eq_self_iff.1 h
      | item hv hx =>
        cases h with
        | arr _ h =>
          obtain ⟨i, hi, rfl⟩ := List.mem_iff_getElem.1 hv
          exact (ih _ rfl _ hv).1 (h i hi hi) x hx
    · intro h
      cases a with
      | nil => exact .nil
      | bool b => exact .bool b
      | int n => exact .int n
      | float x => exact .float (Double.eq_self_iff.2 (h x .float))
      | str s => exact .str s
      | sym s => exact .sym s
      | arr items =>
        refine .arr rfl fun i hi _ => ?_
        have hmem := List.getElem_mem hi
        exact (ih _ rfl _ hmem).2 fun x hx => h x (.item hmem hx)
      | mod id => exact .mod id

/-! ## What equal values share -/

/-- Two values have the same type, count alike as true, and are arrays of the same length with
pairwise equal items, or neither is an array. -/
structure Agrees (a b : Value) : Prop where
  typeName : a.typeName = b.typeName
  isTruthy : a.isTruthy = b.isTruthy
  length : a.items?.map List.length = b.items?.map List.length
  items : ∀ as bs, a.items? = some as → b.items? = some bs →
    ∀ i (ha : i < as.length) (hb : i < bs.length), (as[i] == bs[i]) = true

theorem Agrees.of_eq (h : (a == b) = true) : a.Agrees b := by
  rw [eq_iff] at h
  cases h with
  | arr hlen h =>
    refine ⟨rfl, rfl, congrArg some hlen, fun as bs has hbs => ?_⟩
    cases has
    cases hbs
    exact h
  | _ => exact ⟨rfl, rfl, rfl, fun _ _ has => nomatch has⟩

end Value

/-- **Equality is a partial equivalence, and only NaN keeps it from being reflexive.** Values are
equal if they match, where floating point numbers match if they stand for the same number. So
equality is symmetric and transitive, a value equals itself exactly if it holds no NaN, and equal
values agree in type, truth, length and items. In particular an integer never equals a floating
point number, a string never a symbol, nor an array one of another length. -/
theorem equality_broken_only_by_nan :
    (∀ a b : Value, (a == b) = true ↔ Value.Matches (fun a b => (a == b) = true) a b) ∧
    (∀ x y : Double, (Value.float x == .float y) = true ↔
      ∃ n, x.number? = some n ∧ y.number? = some n) ∧
    (∀ a b : Value, (a == b) = true → (b == a) = true) ∧
    (∀ a b c : Value, (a == b) = true → (b == c) = true → (a == c) = true) ∧
    (∀ a : Value, (a == a) = true ↔ ∀ x, a.Holds x → x.isNaN = false) ∧
    (∀ a b : Value, (a == b) = true → a.Agrees b) ∧
    (∀ n x, (Value.int n == .float x) = false ∧ (Value.float x == .int n) = false) ∧
    (∀ s t, (Value.str s == .sym t) = false ∧ (Value.sym t == .str s) = false) ∧
    ∀ as bs, as.length ≠ bs.length → (Value.arr as == .arr bs) = false := by
  refine ⟨fun _ _ => Value.eq_iff, fun _ _ => Double.eq_iff, fun _ _ => Value.eq_symm,
    fun _ _ _ => Value.eq_trans, fun _ => Value.eq_self_iff, fun _ _ => Value.Agrees.of_eq,
    fun _ _ => ⟨rfl, rfl⟩, fun _ _ => ⟨rfl, rfl⟩, fun as bs hne => ?_⟩
  rw [Bool.eq_false_iff]
  intro h
  cases Value.eq_iff.1 h with
  | arr hlen => exact hne hlen

/-- Two arrays that differ in the sign of a zero, and one that holds a NaN. -/
def plusZero : Value := .arr [.int 1, .arr [.float ⟨0⟩]]

def minusZero : Value := .arr [.int 1, .arr [.float ⟨0x8000000000000000⟩]]

def deepNaN : Value := .arr [.int 1, .arr [.float ⟨0x7FF8000000000000⟩]]

theorem zeros_equal_and_nan_apart :
    (plusZero == minusZero) = true ∧ (minusZero == plusZero) = true ∧
      plusZero.Agrees minusZero ∧ (deepNaN == deepNaN) = false := by
  obtain ⟨-, -, hsymm, -, hself, hagree, -⟩ := equality_broken_only_by_nan
  have hzeros : (plusZero == minusZero) = true := by decide
  refine ⟨hzeros, hsymm _ _ hzeros, hagree _ _ hzeros, ?_⟩
  rw [Bool.eq_false_iff]
  intro h
  have hholds : deepNaN.Holds ⟨0x7FF8000000000000⟩ :=
    .item (.tail _ (.head _)) (.item (.head _) .float)
  exact absurd ((hself deepNaN).1 h _ hholds) (by decide)

end MethodBinding
