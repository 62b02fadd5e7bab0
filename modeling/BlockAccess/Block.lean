/-!
# Blocks

A block is known by its id inside the pool it lives in. Where there is a single pool its name is
empty, and the text of a block leaves it out.
-/

namespace BlockAccess

/-- A block, qualified by its pool. -/
@[ext] structure Block where
  pool : String
  id : Int64
  deriving DecidableEq, Inhabited, Repr

/-- The text of a block: `blk_7`, or `pool-a:blk_7`. -/
def Block.text (b : Block) : String :=
  if b.pool = "" then "blk_" ++ toString b.id.toInt
  else b.pool ++ ":blk_" ++ toString b.id.toInt

end BlockAccess
