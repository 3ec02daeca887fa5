import MethodBinding.Call

/-!
# Libraries of host functions

A library lists host functions with their symbol, their shape and what they do. It interprets every
host function that it lists (`Library.interpret`); any other one does nothing.
-/

namespace MethodBinding

/-- A host function and what it does. -/
structure HostEntry where
  symbol : String
  shape : HostShape
  run : shape.Behaviour

/-- The host function of an entry. -/
def HostEntry.function (e : HostEntry) : HostFunction := ⟨e.symbol, e.shape⟩

/-- What the entry does, if it is the one for a host function. -/
def HostEntry.behaviour? (e : HostEntry) (h : HostFunction) : Option h.shape.Behaviour :=
  if same : e.function = h then some (cast (by rw [← same]; rfl) e.run) else none

/-- Host functions and what they do. -/
abbrev Library := List HostEntry

namespace Library

/-- The host function with a symbol. -/
def function? (l : Library) (symbol : String) : Option HostFunction :=
  (l.find? (·.symbol == symbol)).map (·.function)

/-- What the functions of a library do. -/
def interpret (l : Library) : Interpretation := fun h =>
  (l.findSome? (·.behaviour? h)).getD h.shape.silent

end Library

/-- The interpretation in which no host function does anything. -/
def Interpretation.silent : Interpretation := fun h => h.shape.silent

end MethodBinding
