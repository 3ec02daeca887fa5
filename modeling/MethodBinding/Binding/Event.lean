import MethodBinding.Descriptor.Error
import MethodBinding.Space.Row

/-!
# Errors and events of a binding pass

`BindError` is why a pass installs nothing. `Event` is what a pass reports while it runs, each with
a level, a message and named fields; what is reported from within a pass is recorded with the host
type and target of the pass.
-/

namespace MethodBinding

/-- A binding pass failed. -/
inductive BindError where
  | descriptor (hostType descriptor : String) (source : DescriptorError)
  | unknownModule (hostType : String) (target : ModuleId)
deriving DecidableEq

namespace BindError

/-- The failure of a pass because of a descriptor, which is named if its name is known. -/
def ofDescriptor (hostType : String) (source : DescriptorError) : BindError :=
  .descriptor hostType (source.descriptorName?.getD "?") source

def message : BindError → String
  | descriptor hostType name source =>
    "cannot bind " ++ hostType ++ "#" ++ name ++ ": " ++ source.message
  | unknownModule hostType target =>
    "cannot bind " ++ hostType ++ ": unknown target module #" ++ toString target.index

/-- The error of a descriptor behind the failure. -/
def source? : BindError → Option DescriptorError
  | descriptor _ _ source => some source
  | unknownModule _ _ => none

end BindError

/-- How much an event matters. -/
inductive Level where
  | trace
  | debug
  | warn
deriving DecidableEq

/-- The name of a level. -/
def Level.name : Level → String
  | trace => "TRACE"
  | debug => "DEBUG"
  | warn => "WARN"

/-- What a pass reports. -/
inductive Event where
  /-- A declared name has no descriptor for the active version. -/
  | noDescriptor (name : String) (active : VersionTag)
  /-- A row goes into a table. -/
  | installing (row : Row)
  /-- The pass has bound so many names. -/
  | complete (count : Nat)
  /-- The pass has failed. -/
  | aborted (error : BindError)
  /-- The descriptors of a host type could not be built. -/
  | collectionFailed (hostType : String) (error : DescriptorError)
deriving DecidableEq

/-- The value of a field of an event. -/
inductive FieldValue where
  | text (s : String)
  | number (n : Nat)
  | flag (b : Bool)
deriving DecidableEq

namespace Event

def level : Event → Level
  | noDescriptor _ _ => .trace
  | installing _ | complete _ => .debug
  | aborted _ | collectionFailed _ _ => .warn

def message : Event → String
  | noDescriptor _ _ => "no descriptor for active compat"
  | installing _ => "installing method"
  | complete _ => "binding pass complete"
  | aborted _ => "binding pass aborted, nothing installed"
  | collectionFailed _ _ => "descriptor collection failed"

/-- The fields of an event by name. -/
def fields : Event → List (String × FieldValue)
  | noDescriptor name active => [("name", .text name), ("compat", .text active.text)]
  | installing row =>
    [("name", .text row.name), ("owner", .number row.owner.index),
      ("visibility", .text row.visibility.name), ("min", .number row.arity.min.toNat),
      ("max", .text row.arity.maxText), ("check_arity", .flag row.check)]
  | complete count => [("count", .number count)]
  | aborted error => [("error", .text error.message)]
  | collectionFailed hostType error =>
    [("host_type", .text hostType), ("error", .text error.message)]

end Event

/-- The pass within which an event is reported. -/
structure Span where
  hostType : String
  target : ModuleId
deriving DecidableEq

/-- An event with the pass it was reported from, if any. -/
structure LogRecord where
  event : Event
  span : Option Span
deriving DecidableEq

end MethodBinding
