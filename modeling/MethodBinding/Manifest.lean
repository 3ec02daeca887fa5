import MethodBinding.Descriptor
import MethodBinding.NameMap
import MethodBinding.SourceFile
import MethodBinding.Toml.Decode
import MethodBinding.Toml.Document

/-!
# Manifests

A manifest lists the methods of a host type as data. Each entry names its host function by a symbol
of a `HostRegistry`, and becomes a descriptor (`ManifestMethod.descriptor`) if the symbol is
registered, the names of shape and visibility are known, the shape is that of the function, and the
draft made from the entry has no fault. A manifest gives a descriptor for each entry or the error of
the first entry that has one.
-/

namespace MethodBinding

/-- Host functions by symbol. -/
abbrev HostRegistry := NameMap HostFunction

/-- One method of a manifest. -/
structure ManifestMethod where
  name : String
  symbol : String
  shape : Option String
  required : Int64
  optional : Int64
  rest : Bool
  checkArity : Option Bool
  visibility : Option String
  moduleScope : Bool
  metaScope : Bool
  tag : Option String
  aliases : List String
deriving DecidableEq

/-- The methods of a host type. -/
structure Manifest where
  hostType : String
  methods : List ManifestMethod
deriving DecidableEq

/-- Why a manifest cannot be loaded or used. -/
inductive ManifestError where
  | unreadable (fault : ReadFault)
  | malformed
  | descriptor (source : DescriptorError)
deriving DecidableEq

namespace ManifestError

/-- The message of an error; what is wrong with a malformed document is not said. -/
def message? : ManifestError → Option String
  | unreadable fault => some ("failed to read binding manifest: " ++ fault.message)
  | malformed => none
  | descriptor source => some ("invalid binding manifest: " ++ source.message)

end ManifestError

/-! ## Descriptors -/

namespace ManifestMethod

/-- What an entry says about its method, given its host function and visibility. -/
def clauses (m : ManifestMethod) (host : HostFunction) (visibility : Option DeclaredVisibility) :
    List Clause :=
  [.required m.required, .optional m.optional, .host host] ++
    (if m.rest then [.rest] else []) ++
    (m.checkArity.map .checkArity).toList ++
    (visibility.map .visibility).toList ++
    (if m.moduleScope then [.moduleScope] else []) ++
    (if m.metaScope then [.metaScope] else []) ++
    (m.tag.map fun tag => Clause.tag ⟨tag⟩).toList ++
    m.aliases.map .otherName

/-- Checks the declared name of a shape against the shape of the host function. -/
def checkShape (m : ManifestMethod) (host : HostFunction) : Except DescriptorError Unit :=
  match m.shape with
  | none => .ok ()
  | some name => do
    let declared ← HostShape.ofName name
    if declared = host.shape then .ok ()
    else
      let reason := "does not match declared shape " ++ declared.name
      .error (.shapeMismatch m.name host.shape reason)

/-- The visibility that an entry declares, if it declares any. -/
def declaredVisibility (m : ManifestMethod) :
    Except DescriptorError (Option DeclaredVisibility) :=
  match m.visibility with
  | none => .ok none
  | some name => some <$> DeclaredVisibility.ofName name

/-- The descriptor of an entry. -/
def descriptor (m : ManifestMethod) (registry : HostRegistry) :
    Except DescriptorError Descriptor :=
  match registry.find? m.symbol with
  | none => .error (.unknownSymbol m.symbol)
  | some host => do
    m.checkShape host
    let visibility ← m.declaredVisibility
    (Draft.ofClauses m.name (m.clauses host visibility)).build

end ManifestMethod

/-- The descriptors of all entries in order. -/
def Manifest.descriptors (m : Manifest) (registry : HostRegistry) :
    Except DescriptorError (List Descriptor) :=
  m.methods.mapM (·.descriptor registry)

/-! ## Reading manifests -/

/-- The method that a node describes. -/
def ManifestMethod.decode? (n : Toml.Node) : Option ManifestMethod := do
  let fields ← Toml.Fields.ofNode? n
  return {
    name := ← fields.required? "name" 0 (·.string?)
    symbol := ← fields.required? "symbol" 1 (·.string?)
    shape := ← fields.optional? "shape" 2 (·.string?)
    required := ← fields.orElse? "required" 3 (·.integer?) 0
    optional := ← fields.orElse? "optional" 4 (·.integer?) 0
    rest := ← fields.orElse? "rest" 5 (·.boolean?) false
    checkArity := ← fields.optional? "check_arity" 6 (·.boolean?)
    visibility := ← fields.optional? "visibility" 7 (·.string?)
    moduleScope := ← fields.orElse? "module" 8 (·.boolean?) false
    metaScope := ← fields.orElse? "meta" 9 (·.boolean?) false
    tag := ← fields.optional? "compat" 10 (·.string?)
    aliases := ← fields.orElse? "aliases" 11 (·.listOf? (·.string?)) [] }

namespace Manifest

/-- The manifest that a document describes. -/
def decode? (entries : Toml.Entries) : Option Manifest := do
  let fields := Toml.Fields.ofEntries entries
  return {
    hostType := ← fields.orElse? "host_type" 0 (·.string?) ""
    methods := ← fields.orElse? "method" 1 (·.listOf? ManifestMethod.decode?) [] }

/-- The manifest in a text. -/
def ofToml (s : String) : Except ManifestError Manifest :=
  match (Toml.parse? s).bind decode? with
  | none => .error .malformed
  | some m => .ok m

/-- The manifest in a file. -/
def ofFile (file : SourceFile) : Except ManifestError Manifest :=
  match file.text with
  | .error fault => .error (.unreadable fault)
  | .ok s => ofToml s

end Manifest

end MethodBinding
