import BlockAccess.Wire.Coded
import BlockAccess.Wire.Writer

/-!
# The wire form of an identifier

Expiry, key id, owner, pool, block id and the mode byte, in this order. It is this byte sequence
that a token's password signs.
-/

namespace BlockAccess.Identifier

/-- The bytes of an identifier, of whatever length. -/
def wireBytes (x : Identifier) : List UInt8 :=
  Wire.putInt64 x.expiry.millis ++ Wire.putUInt32 x.keyId ++ Wire.putText x.owner
    ++ Wire.putText x.block.pool ++ Wire.putInt64 x.block.id ++ Wire.putUInt8 x.modes.bits

/-- **The wire form of an identifier,** unless it is too long. -/
def encode (x : Identifier) : Except AccessError (List UInt8) :=
  (Wire.bounded .identifier x.wireBytes).mapError .malformedToken

/-- Reads the fields of an identifier; the modes are still a byte. -/
def fieldsReader : Wire.Reader ((AccessModes → Identifier) × UInt8) := do
  let expiry ← Wire.readInt64
  let keyId ← Wire.readUInt32
  let owner ← Wire.readText
  let pool ← Wire.readText
  let id ← Wire.readInt64
  let bits ← Wire.readUInt8
  return ((⟨⟨expiry⟩, keyId, owner, ⟨pool, id⟩, ·⟩), bits)

/-- **The identifier of a wire form.** Bits that stand for no mode are found last, after bytes that
are left over. -/
def decode (bytes : List UInt8) : Except AccessError Identifier :=
  match Wire.readExact .identifier fieldsReader bytes with
  | .error flaw => .error (.malformedToken flaw)
  | .ok (ofModes, bits) =>
    match AccessModes.ofBits? bits with
    | some modes => .ok (ofModes modes)
    | none => .error (.malformedToken (.unknownModes bits))

/-- Fills an identifier from a wire form; bytes that are none leave it as it was. -/
def readFrom (x : Identifier) (bytes : List UInt8) : Except AccessError Unit × Identifier :=
  match decode bytes with
  | .ok y => (.ok (), y)
  | .error e => (.error e, x)

end BlockAccess.Identifier
