import MethodBinding.Attribute.Expansion
import MethodBinding.Manifest
import MethodBinding.Sample.Library
import MethodBinding.Settings.Reader
import MethodBinding.Value.Conversion
import MethodBinding.Proofs.Binding.Atomicity
import MethodBinding.Proofs.Binding.Effect
import MethodBinding.Proofs.Binding.Inheritance
import MethodBinding.Proofs.Descriptor.Sources
import MethodBinding.Proofs.Enforcement
import MethodBinding.Proofs.RowIntegrity
import MethodBinding.Proofs.Session
import MethodBinding.Proofs.SingletonClasses
import MethodBinding.Proofs.Binding.Order
import MethodBinding.Proofs.Binding.Split
import MethodBinding.Proofs.Binding.Frame
import MethodBinding.Proofs.Binding.Report
import MethodBinding.Proofs.Binding.Rebinding
import MethodBinding.Proofs.Binding.OtherVersions
import MethodBinding.Proofs.Binding.Hooks
import MethodBinding.Proofs.Provenance
import MethodBinding.Proofs.Binding.Log
import MethodBinding.Proofs.Space.Search
import MethodBinding.Proofs.Descriptor.Validation
import MethodBinding.Proofs.Descriptor.Entries
import MethodBinding.Proofs.Attribute.Signature
import MethodBinding.Proofs.Handover
import MethodBinding.Proofs.Attribute.HostFunction
import MethodBinding.Proofs.Attribute.Properties
import MethodBinding.Proofs.Descriptor.Bounds
import MethodBinding.Proofs.Number.Comparison
import MethodBinding.Proofs.Value.Equality
import MethodBinding.Proofs.Space.Naming
import MethodBinding.Proofs.TableHistory
import MethodBinding.Proofs.Host.Shape
import MethodBinding.Proofs.Attribute.Writing
