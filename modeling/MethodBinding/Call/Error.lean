import MethodBinding.Call.Arity
import MethodBinding.Value

/-!
# Errors of a call

What can go wrong while a method runs: an unacceptable number of arguments, a value of the wrong
type, a method that is not there, or an error that the host function raises itself.
-/

namespace MethodBinding

/-- A number of arguments outside the bounds. -/
structure ArityMismatch where
  given : Nat
  arity : Arity
deriving DecidableEq

namespace ArityMismatch

/-- The bounds as a message gives them: one number, a range, or a least number. -/
def expected (a : Arity) : String :=
  match a.max with
  | none => toString a.min.toNat ++ "+"
  | some most =>
    if most = a.min then toString most.toNat
    else toString a.min.toNat ++ ".." ++ toString most.toNat

def message (e : ArityMismatch) : String :=
  "wrong number of arguments (given " ++ toString e.given ++
    ", expected " ++ expected e.arity ++ ")"

end ArityMismatch

/-- An error raised by a call. -/
inductive CallError where
  | arity (mismatch : ArityMismatch)
  | typeMismatch (expected got : String)
  | noMethod (name receiver : String)
  | raised (message : String)
deriving DecidableEq

namespace CallError

def message : CallError → String
  | arity mismatch => "ArgumentError: " ++ mismatch.message
  | typeMismatch expected got => "TypeError: expected " ++ expected ++ ", got " ++ got
  | noMethod name receiver =>
    "NoMethodError: undefined method '" ++ name ++ "' for " ++ receiver
  | raised message => message

def isArity : CallError → Bool
  | arity _ => true
  | _ => false

/-- The mismatch behind an arity error. -/
def mismatch? : CallError → Option ArityMismatch
  | arity mismatch => some mismatch
  | _ => none

end CallError

/-- What a host function returns: a value, no value, or an error. -/
abbrev HostResult := Except CallError (Option Value)

end MethodBinding
