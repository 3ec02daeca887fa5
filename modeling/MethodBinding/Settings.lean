import MethodBinding.Text.Blank
import MethodBinding.Text.Quoted

/-!
# Settings of a space

The active version tag, and the names of the construction hooks: methods that are private unless a
binding says otherwise. `Settings.check` refuses a blank tag and an empty hook name.
-/

namespace MethodBinding

/-- A tag that names a language version, such as `1.9`. Tags have no structure: they are equal or
not, and ordered as texts. -/
structure VersionTag where
  text : String
deriving DecidableEq

namespace VersionTag

instance : Ord VersionTag := ⟨fun a b => compare a.text b.text⟩

/-- A tag as a text for a reader. -/
def inspect (t : VersionTag) : String := "CompatTag(" ++ quoted t.text ++ ")"

end VersionTag

/-- The settings of a space. -/
structure Settings where
  active : VersionTag
  hooks : List String
deriving DecidableEq

/-- Why settings are refused. -/
inductive SettingsFault where
  | blankTag
  | emptyHook
deriving DecidableEq

namespace SettingsFault

def message : SettingsFault → String
  | blankTag => "Invalid config: compat tag must not be empty"
  | emptyHook => "Invalid config: construction hook names must not be empty"

end SettingsFault

namespace Settings

/-- The settings where nothing is configured. -/
def standard : Settings where
  active := ⟨"2.0"⟩
  hooks :=
    ["initialize", "initialize_copy", "initialize_clone", "initialize_dup", "respond_to_missing?"]

instance : Inhabited Settings := ⟨standard⟩

/-- Whether `name` is a construction hook. -/
def isHook (s : Settings) (name : String) : Bool := s.hooks.contains name

/-- The first fault of the settings; a blank tag goes before an empty hook name. -/
def fault? (s : Settings) : Option SettingsFault :=
  if isBlankText s.active.text then some .blankTag
  else if s.hooks.contains "" then some .emptyHook
  else none

/-- The settings themselves if they have no fault. -/
def check (s : Settings) : Except SettingsFault Settings :=
  match s.fault? with
  | some fault => .error fault
  | none => .ok s

end Settings

end MethodBinding
