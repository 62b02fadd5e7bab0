import BlockAccess.Wire.BigEndian
import BlockAccess.Wire.Fault

/-!
# Reading the wire forms

A reader takes bytes from the front of its `Source` and keeps account of what it has taken in. It
*claims* the size of every item before it touches the bytes; a claim that would bring the account
above `maxEncodedSize` is refused, however many bytes there are. So a length that lies is refused
before anything is allocated for it.

A sequence of records claims the room that its records will occupy as soon as their number is
known, and gives that room back record by record while it reads them.
-/

namespace BlockAccess.Wire

/-- The bytes still to be read, and the size claimed so far. -/
structure Source where
  rest : List UInt8
  claimed : Nat
  deriving Repr

/-- The beginning of a byte sequence, with nothing claimed. -/
def Source.ofBytes (bytes : List UInt8) : Source := ⟨bytes, 0⟩

/-- A reader of an `α`. -/
abbrev Reader (α : Type) := StateT Source (Except Fault) α

/-- Claims `n` bytes of the limit. -/
def claim (n : Nat) : Reader Unit := fun source =>
  if source.claimed + n ≤ maxEncodedSize then
    .ok ((), { source with claimed := source.claimed + n })
  else .error .limitExceeded

/-- Gives `n` claimed bytes back. -/
def release (n : Nat) : Reader Unit := fun source =>
  .ok ((), { source with claimed := source.claimed - n })

/-- The next `n` bytes. -/
def takeBytes (n : Nat) : Reader (List UInt8) := fun source =>
  let head := source.rest.take n
  if head.length = n then .ok (head, { source with rest := source.rest.drop n })
  else .error (.unexpectedEnd (n - head.length))

/-- A number of `width` bytes. -/
def readWord (width : Nat) : Reader Nat := do
  claim width
  return ofBigEndian (← takeBytes width)

def readUInt8 : Reader UInt8 := return UInt8.ofNat (← readWord 1)

def readUInt32 : Reader UInt32 := return UInt32.ofNat (← readWord 4)

def readUInt64 : Reader UInt64 := return UInt64.ofNat (← readWord 8)

def readInt64 : Reader Int64 := return (← readUInt64).toInt64

/-- A byte sequence, preceded by its length. -/
def readBytes : Reader (List UInt8) := do
  let length ← readWord 8
  claim length
  takeBytes length

/-- A text, preceded by its length in bytes. -/
def readText : Reader String := do
  match readUtf8 (← readBytes) with
  | .ok s => return s
  | .error fault => throw (.notText fault)

/-- `n` records, for each of which `room` bytes were claimed before. -/
def readRecords {α : Type} (room : Nat) (record : Reader α) : Nat → Reader (List α)
  | 0 => return []
  | n + 1 => do
    release room
    let first ← record
    return first :: (← readRecords room record n)

/-- A sequence of records, preceded by their number. -/
def readSequence {α : Type} (room : Nat) (record : Reader α) : Reader (List α) := do
  let count ← readWord 8
  claim (count * room)
  readRecords room record count

/-- The value that all the bytes together form: its fault, or the number of bytes left over, if
there is none. -/
inductive Reading (α : Type)
  | whole (value : α)
  | stopped (fault : Fault)
  | leftOver (count : Nat)

/-- Reads a value from all of the bytes. -/
def Reader.readAll {α : Type} (reader : Reader α) (bytes : List UInt8) : Reading α :=
  match reader (.ofBytes bytes) with
  | .error fault => .stopped fault
  | .ok (value, source) =>
    if source.rest.isEmpty then .whole value else .leftOver source.rest.length

end BlockAccess.Wire
