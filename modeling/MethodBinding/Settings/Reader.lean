import MethodBinding.Settings
import MethodBinding.SourceFile
import MethodBinding.Toml.Decode
import MethodBinding.Toml.Document

/-!
# Reading settings

Settings are read from a document with the fields `compat` and `construction_hooks`, each of which
may be left out, and checked.
-/

namespace MethodBinding

/-- Why settings cannot be loaded. -/
inductive SettingsError where
  | unreadable (fault : ReadFault)
  | malformed
  | invalid (fault : SettingsFault)
deriving DecidableEq

namespace SettingsError

/-- The message of an error; what is wrong with a malformed document is not said. -/
def message? : SettingsError → Option String
  | unreadable fault => some ("Failed to read config file: " ++ fault.message)
  | malformed => none
  | invalid fault => some fault.message

end SettingsError

namespace Settings

/-- The settings that a document describes, before they are checked. -/
def decode? (entries : Toml.Entries) : Option Settings := do
  let fields := Toml.Fields.ofEntries entries
  let active ← fields.orElse? "compat" 0 (·.string?) standard.active.text
  let hooks ← fields.orElse? "construction_hooks" 1 (·.listOf? (·.string?)) standard.hooks
  return { active := ⟨active⟩, hooks }

/-- The settings in a text. -/
def ofToml (s : String) : Except SettingsError Settings :=
  match (Toml.parse? s).bind decode? with
  | none => .error .malformed
  | some settings => settings.check.mapError .invalid

/-- The settings in a file. -/
def ofFile (file : SourceFile) : Except SettingsError Settings :=
  match file.text with
  | .error fault => .error (.unreadable fault)
  | .ok s => ofToml s

end Settings

end MethodBinding
