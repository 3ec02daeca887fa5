import MethodBinding.Call

/-!
# Sample blocks

Blocks to pass along with calls, by name.
-/

namespace MethodBinding.Sample

/-- Answers the number of arguments. -/
def countBlock : Block := ⟨fun _ args => return .int (.ofNat args.length)⟩

/-- Answers ten times the first argument, within 64 bits; anything but an integer counts as zero. -/
def timesTenBlock : Block := ⟨fun _ args => return .int ((args.head?.bind (·.int?)).getD 0 * 10)⟩

def firstBlock : Block := ⟨fun _ args => return args.head?.getD .nil⟩

def listBlock : Block := ⟨fun _ args => return .arr args⟩

def raiseBlock : Block := ⟨fun _ _ => throw (.raised "block error")⟩

/-- Refuses `nil` as the first argument; without arguments there is nothing to refuse. -/
def raiseNilBlock : Block where
  body
    | _, .nil :: _ => throw (.raised "nil yielded")
    | _, _ => return .bool true

def tagBlock : Block := ⟨fun ctx _ => return .str ctx.tag.text⟩

/-- The sample blocks by name. -/
def blocks : List (String × Block) :=
  [("count", countBlock), ("times10", timesTenBlock), ("first", firstBlock), ("list", listBlock),
    ("raise", raiseBlock), ("raise_nil", raiseNilBlock), ("compat", tagBlock)]

end MethodBinding.Sample
