/-!
# Sets of characters

A set of characters is given by the code points at which membership changes, in ascending order: the
first is the first member, the second is the first code point after it that is no member, and so on.
-/

namespace BlockAccess

/-- A set of characters. -/
structure CharSet where
  flips : List Nat

namespace CharSet

/-- Whether `n` is a member, if a code point before the first of the flips is one or not. -/
def memberFrom (member : Bool) (n : Nat) : List Nat → Bool
  | [] => member
  | flip :: rest => if n < flip then member else memberFrom (!member) n rest

/-- Whether a character is in the set. -/
def contains (s : CharSet) (c : Char) : Bool := memberFrom false c.toNat s.flips

end CharSet

end BlockAccess
