/-!
# Argument bounds

An `Arity` says how many positional arguments a method accepts: at least `min` and, unless `max` is
absent, at most `max`. The bounds are machine words; the number of arguments of a call is the length
of a list.
-/

namespace MethodBinding

/-- The bounds on the number of arguments. -/
structure Arity where
  min : UInt64
  max : Option UInt64
deriving DecidableEq

namespace Arity

/-- Exactly `n` arguments. -/
def fixed (n : UInt64) : Arity := ⟨n, some n⟩

/-- From `least` to `most` arguments. -/
def range (least most : UInt64) : Arity := ⟨least, some most⟩

/-- `n` arguments or more. -/
def atLeast (n : UInt64) : Arity := ⟨n, none⟩

/-- Whether a call with `count` arguments is within the bounds. -/
def accepts (a : Arity) (count : Nat) : Bool :=
  a.min.toNat ≤ count && a.max.all fun most => count ≤ most.toNat

theorem accepts_iff {a : Arity} {count : Nat} :
    a.accepts count = true ↔
      a.min.toNat ≤ count ∧ ∀ most, a.max = some most → count ≤ most.toNat := by
  cases h : a.max <;> simp [accepts, h]

/-- The upper bound as a text. -/
def maxText (a : Arity) : String :=
  match a.max with
  | none => "None"
  | some most => "Some(" ++ toString most.toNat ++ ")"

/-- The bounds as a text. -/
def inspect (a : Arity) : String :=
  "Arity \x7b min: " ++ toString a.min.toNat ++ ", max: " ++ a.maxText ++ " \x7d"

end Arity

/-- Whether a method checks its number of arguments: as by default, or as declared. -/
inductive Checking where
  | byDefault
  | enabled
  | disabled
deriving DecidableEq

namespace Checking

/-- An explicit declaration. -/
def ofBool (enabled : Bool) : Checking := if enabled then .enabled else .disabled

/-- Methods check unless checking is disabled. -/
def isOn : Checking → Bool
  | byDefault | enabled => true
  | disabled => false

end Checking

/-- The bounds of a method and whether they are enforced when it is called. -/
structure ArityPolicy where
  arity : Arity
  check : Bool
deriving DecidableEq

/-- The policy of a method with `required` mandatory and `optional` further arguments, followed by
any number of others if `rest` is set. -/
def ArityPolicy.resolve (required optional : UInt64) (rest : Bool) (checking : Checking) :
    ArityPolicy where
  arity := if rest then .atLeast required else .range required (required + optional)
  check := checking.isOn

end MethodBinding
