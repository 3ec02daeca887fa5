/-!
# Visibility

`Visibility` is what a row of a method table has; `DeclaredVisibility` is what a descriptor says,
which may be nothing (`unset`), or `moduleFunction` for two rows of different visibility.
-/

namespace MethodBinding

/-- Who may call a method. -/
inductive Visibility where
  | pub
  | priv
  | prot
deriving DecidableEq

namespace Visibility

def name : Visibility → String
  | pub => "public"
  | priv => "private"
  | prot => "protected"

/-- The visibility as a bare word, as it shows in the text of a row. -/
def inspect : Visibility → String
  | pub => "Public"
  | priv => "Private"
  | prot => "Protected"

end Visibility

/-- Visibility as a descriptor declares it. -/
inductive DeclaredVisibility where
  | unset
  | pub
  | priv
  | prot
  | moduleFunction
deriving DecidableEq

namespace DeclaredVisibility

/-- All declarations, in their usual order. -/
def all : List DeclaredVisibility := [unset, pub, priv, prot, moduleFunction]

/-- The name in manifests and attributes. -/
def name : DeclaredVisibility → String
  | unset => "unset"
  | pub => "public"
  | priv => "private"
  | prot => "protected"
  | moduleFunction => "module_function"

/-- The name in generated code. -/
def variant : DeclaredVisibility → String
  | unset => "Unset"
  | pub => "Public"
  | priv => "Private"
  | prot => "Protected"
  | moduleFunction => "ModuleFunction"

/-- The declaration with a name. -/
def ofName? (s : String) : Option DeclaredVisibility := all.find? (·.name == s)

theorem ofName?_name (v : DeclaredVisibility) : ofName? v.name = some v := by cases v <;> decide

end DeclaredVisibility

end MethodBinding
