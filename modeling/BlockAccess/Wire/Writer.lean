import BlockAccess.Text.Utf8
import BlockAccess.Wire.BigEndian

/-!
# Writing the wire forms

Numbers have a fixed width and are big-endian. A byte sequence or a text is preceded by its length
as a 64-bit number. Nothing else is written, so that the fields of a record are simply
concatenated.
-/

namespace BlockAccess.Wire

def putUInt8 (n : UInt8) : List UInt8 := [n]

def putUInt32 (n : UInt32) : List UInt8 := bigEndian 4 n.toNat

def putUInt64 (n : UInt64) : List UInt8 := bigEndian 8 n.toNat

/-- A signed number is written in two's complement. -/
def putInt64 (n : Int64) : List UInt8 := putUInt64 n.toUInt64

/-- The length of what follows. -/
def putLength (n : Nat) : List UInt8 := bigEndian 8 n

def putBytes (bytes : List UInt8) : List UInt8 := putLength bytes.length ++ bytes

def putText (s : String) : List UInt8 := putBytes (utf8Bytes s)

@[simp] theorem length_putUInt8 (n : UInt8) : (putUInt8 n).length = 1 := rfl
@[simp] theorem length_putUInt32 (n : UInt32) : (putUInt32 n).length = 4 := by simp [putUInt32]
@[simp] theorem length_putUInt64 (n : UInt64) : (putUInt64 n).length = 8 := by simp [putUInt64]
@[simp] theorem length_putInt64 (n : Int64) : (putInt64 n).length = 8 := by simp [putInt64]
@[simp] theorem length_putLength (n : Nat) : (putLength n).length = 8 := by simp [putLength]

@[simp] theorem length_putBytes (bytes : List UInt8) :
    (putBytes bytes).length = 8 + bytes.length := by simp [putBytes]

@[simp] theorem length_putText (s : String) : (putText s).length = 8 + s.utf8ByteSize := by
  simp [putText, length_utf8Bytes]

end BlockAccess.Wire
