import MethodBinding.Host.Shape
import MethodBinding.Settings
import MethodBinding.Visibility

/-!
# Errors of descriptors

What can be wrong with the metadata of a method, found while a descriptor is built or while the
descriptors for a binding pass are selected.
-/

namespace MethodBinding

/-- One of the two argument counts. -/
inductive CountField where
  | required
  | optional
deriving DecidableEq

namespace CountField

def name : CountField → String
  | required => "required"
  | optional => "optional"

end CountField

/-- Malformed method metadata. -/
inductive DescriptorError where
  | emptyName
  | negativeCount (name : String) (field : CountField) (value : Int64)
  | countTooLarge (name : String) (field : CountField) (value : Int64)
  | duplicateAlias (name alternative : String)
  | missingHost (name : String)
  | unknownShape (text : String)
  | unknownVisibility (text : String)
  | unknownSymbol (text : String)
  | shapeMismatch (name : String) (shape : HostShape) (reason : String)
  | uncheckedFixedArity (name : String) (shape : HostShape)
  | conflictingScope (name : String)
  | duplicateName (name : String) (tag : Option VersionTag)
  | ambiguousName (name : String) (tag : VersionTag)
deriving DecidableEq

namespace DescriptorError

/-- The start of a message about one method. -/
def about (name rest : String) : String := "method '" ++ name ++ "'" ++ rest

def message : DescriptorError → String
  | emptyName => "method name must not be empty"
  | negativeCount name field value =>
    about name (": " ++ field.name ++ " must not be negative (got " ++ toString value.toInt ++ ")")
  | countTooLarge name field value =>
    about name (": " ++ field.name ++ " is too large (got " ++ toString value.toInt ++ ")")
  | duplicateAlias name alternative =>
    about name (": alias '" ++ alternative ++ "' is declared more than once")
  | missingHost name => about name ": no host function"
  | unknownShape text => "unknown adapter shape '" ++ text ++ "'"
  | unknownVisibility text => "unknown visibility '" ++ text ++ "'"
  | unknownSymbol text => "unknown host function symbol '" ++ text ++ "'"
  | shapeMismatch name shape reason =>
    about name (": " ++ shape.name ++ " adapter " ++ reason)
  | uncheckedFixedArity name shape =>
    about name (": " ++ shape.name ++ " adapter requires arity checking")
  | conflictingScope name => about name ": meta methods cannot also be module methods"
  | duplicateName name none => "duplicate " ++ about name " for all versions"
  | duplicateName name (some tag) => "duplicate " ++ about name (" for compat " ++ tag.text)
  | ambiguousName name tag =>
    about name (" is declared both untagged and for compat " ++ tag.text)

/-- The name of the descriptor that the error is about, when it is known. -/
def descriptorName? : DescriptorError → Option String
  | negativeCount name _ _ | countTooLarge name _ _ | duplicateAlias name _ | missingHost name
  | shapeMismatch name _ _ | uncheckedFixedArity name _ | conflictingScope name
  | duplicateName name _ | ambiguousName name _ => some name
  | emptyName | unknownShape _ | unknownVisibility _ | unknownSymbol _ => none

end DescriptorError

/-- Reading the name of a shape. -/
def HostShape.ofName (s : String) : Except DescriptorError HostShape :=
  match ofName? s with
  | some shape => .ok shape
  | none => .error (.unknownShape s)

/-- Reading the name of a declared visibility. -/
def DeclaredVisibility.ofName (s : String) : Except DescriptorError DeclaredVisibility :=
  match ofName? s with
  | some visibility => .ok visibility
  | none => .error (.unknownVisibility s)

end MethodBinding
