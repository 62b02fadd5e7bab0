import BlockAccess.AccessMode
import BlockAccess.Block
import BlockAccess.Time.Calendar

/-!
# Token identifiers

The signed content of a token: who may do what with which block, until when, and the id of the key
that signed it.
-/

namespace BlockAccess

/-- The number of a signing key. -/
abbrev KeyId := UInt32

/-- What a token says. -/
structure Identifier where
  expiry : Instant
  keyId : KeyId
  /-- Whom the token was issued to; empty when it was issued to nobody in particular. -/
  owner : String
  block : Block
  modes : AccessModes
  deriving DecidableEq, Inhabited, Repr

namespace Identifier

/-- The identifier with every field zero, empty or without a mode. -/
def blank : Identifier := ⟨.epoch, 0, "", ⟨"", 0⟩, .empty⟩

/-- Whether the identifier has run out. At its expiry it is still good. -/
def isExpired (x : Identifier) (now : Instant) : Bool := x.expiry.isPast now

/-- One line that tells all fields of an identifier. -/
def text (x : Identifier) : String :=
  "block_token_identifier (expiry=" ++ x.expiry.rfc3339 ++ ", key_id=" ++ toString x.keyId.toNat
    ++ ", owner=" ++ x.owner ++ ", block_pool_id=" ++ x.block.pool ++ ", block_id="
    ++ toString x.block.id.toInt ++ ", access_modes=" ++ x.modes.text ++ ")"

end Identifier

end BlockAccess
