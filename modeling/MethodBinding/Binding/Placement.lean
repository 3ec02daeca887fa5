import MethodBinding.Descriptor

/-!
# Placement of methods

Where a bound name goes: into the table of the target module, into that of the module's singleton
class, or into both, and with which visibility (`Descriptor.placement`). A name without declared
visibility is public unless it is a construction hook.
-/

namespace MethodBinding

/-- The visibility of a name. -/
def effectiveVisibility (settings : Settings) (declared : DeclaredVisibility) (name : String) :
    Visibility :=
  match declared with
  | .pub => .pub
  | .priv | .moduleFunction => .priv
  | .prot => .prot
  | .unset => if settings.isHook name then .priv else .pub

/-- One of the two tables a method can go into. -/
inductive TargetTable where
  | ofModule
  | ofSingleton
deriving DecidableEq

/-- The visibility of a name in each table that it goes into. -/
structure Placement where
  onModule : Option Visibility
  onSingleton : Option Visibility
deriving DecidableEq

/-- The placements as a list, the module's own table first. -/
def Placement.targets (p : Placement) : List (TargetTable × Visibility) :=
  (p.onModule.map (.ofModule, ·)).toList ++ (p.onSingleton.map (.ofSingleton, ·)).toList

/-- Where a name of a descriptor goes. Of a module function the singleton class has a public
copy. -/
def Descriptor.placement (settings : Settings) (d : Descriptor) (name : String) : Placement :=
  let visibility := effectiveVisibility settings d.visibility name
  if d.metaScope then ⟨none, some visibility⟩
  else if d.isModuleMethod then
    ⟨some visibility, some (if d.visibility = .moduleFunction then .pub else visibility)⟩
  else ⟨some visibility, none⟩

end MethodBinding
