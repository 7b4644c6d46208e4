import PromptStudio.Catalog.Snapshot

/-!
# The order of blocks

Blocks are put into the order of roles that a profile prefers. Roles that it does not list, and keys that are no
block, come last, and blocks of one rank keep their order.
-/

namespace PromptStudio

/-- The rank of a role: its last place in the preferred order, and behind all places if it has none. -/
def BlockType.rank (preferred : List BlockType) (t : BlockType) : Nat :=
  match preferred.reverse.idxOf? t with
  | some back => preferred.length - 1 - back
  | none => preferred.length

namespace Catalog

def blockRank (c : Catalog) (preferred : List BlockType) (key : Text) : Nat :=
  match c.blocks.get? key with
  | some b => b.type.rank preferred
  | none => preferred.length

def orderBlocks (c : Catalog) (keys : List Text) (preferred : List BlockType) : List Text :=
  keys.mergeSort fun a b => c.blockRank preferred a ≤ c.blockRank preferred b

end Catalog

end PromptStudio
