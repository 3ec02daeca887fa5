import MethodBinding.Manifest
import MethodBinding.Sample.Blocks
import MethodBinding.Sample.HostTypes

/-!
# The sample library

All sample functions together. A call by `resend` may come to `resend` again, with the items of an
array as arguments; such calls nest no deeper than the array does, which bounds the tower of
libraries (`libraryWithin`) that `library` is the top of.
-/

namespace MethodBinding.Sample

/-- The sample functions, where what `resend` calls with these arguments is run by `does`. -/
def libraryCalling (does : Value → Interpretation) : Library :=
  resendEntry does :: functions ++ hostTypes.flatMap (·.library)

/-- The sample functions, where `resend` nests at most `depth` deep. -/
def libraryWithin : Nat → Library
  | 0 => libraryCalling fun _ => .silent
  | depth + 1 => libraryCalling fun _ => (libraryWithin depth).interpret

/-- The sample functions. -/
def library : Library := libraryCalling fun arguments => (libraryWithin arguments.depth).interpret

/-- What the sample functions do. -/
def does : Interpretation := library.interpret

/-- The sample functions that have a symbol of their own, as a registry for manifests. -/
def registry : HostRegistry :=
  let entries := resendEntry (fun _ => .silent) :: functions
  entries.foldl (fun r e => r.insert e.symbol e.function) .empty

end MethodBinding.Sample
