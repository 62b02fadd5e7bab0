import BlockAccess.AccessError
import BlockAccess.Wire.Reader

/-!
# Whole values as bytes

A written form is bounded when it is written, too: a value whose form would be longer than any
reader takes in is refused. A value is read from all of the bytes; bytes left over are a flaw.
-/

namespace BlockAccess.Wire

/-- The written form of a value, if a reader could take it in. -/
def bounded (form : Form) (bytes : List UInt8) : Except Flaw (List UInt8) :=
  if bytes.length ≤ maxEncodedSize then .ok bytes else .error (.oversized bytes.length form)

/-- The value that all the bytes form. -/
def readExact {α : Type} (form : Form) (reader : Reader α) (bytes : List UInt8) : Except Flaw α :=
  match reader.readAll bytes with
  | .whole value => .ok value
  | .stopped fault => .error (.unreadable fault)
  | .leftOver count => .error (.trailing count form)

end BlockAccess.Wire
