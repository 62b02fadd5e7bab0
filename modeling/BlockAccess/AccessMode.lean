/-!
# Access modes

An operation on a block needs one of four modes; a token grants a set of them. A set travels as a
byte with one bit per mode, and the other four bits have to be clear.

## Main results

* `AccessModes.ofBits?_eq_some_iff` — a byte reads as a set exactly if it is written for that set.
-/

namespace BlockAccess

/-- The class of an operation on a block. -/
inductive AccessMode
  | read
  | write
  | copy
  | replace
  deriving DecidableEq, Repr

namespace AccessMode

/-- The modes in the order in which they are listed. -/
def all : List AccessMode := [read, write, copy, replace]

/-- The name of a mode. -/
def name : AccessMode → String
  | read => "READ"
  | write => "WRITE"
  | copy => "COPY"
  | replace => "REPLACE"

/-- The mode of the given name. -/
def ofName? (name : String) : Option AccessMode := all.find? (·.name = name)

theorem ofName?_name (m : AccessMode) : ofName? m.name = some m := by cases m <;> decide

end AccessMode

/-- A set of access modes. A set that is kept as a bare byte, and is read as such by itself, could
also have some of the other four bits set. No set that is made of modes has them, and none that is
read as part of an identifier, where such a byte is refused. This type leaves these values out. -/
structure AccessModes where
  read : Bool
  write : Bool
  copy : Bool
  replace : Bool
  deriving DecidableEq, Repr

namespace AccessModes

/-- The set without a mode. -/
def empty : AccessModes := ⟨false, false, false, false⟩

/-- The set of all four modes. -/
def all : AccessModes := ⟨true, true, true, true⟩

instance : Inhabited AccessModes := ⟨empty⟩

/-- Whether the set grants a mode. -/
def contains (s : AccessModes) : AccessMode → Bool
  | .read => s.read
  | .write => s.write
  | .copy => s.copy
  | .replace => s.replace

/-- The set with one more mode. -/
def insert (s : AccessModes) : AccessMode → AccessModes
  | .read => { s with read := true }
  | .write => { s with write := true }
  | .copy => { s with copy := true }
  | .replace => { s with replace := true }

/-- The set of a single mode. -/
def only (m : AccessMode) : AccessModes := empty.insert m

/-- The set of the listed modes. -/
def ofList (modes : List AccessMode) : AccessModes := modes.foldl insert empty

/-- The modes of a set, in their order. -/
def toList (s : AccessModes) : List AccessMode := AccessMode.all.filter s.contains

def isEmpty (s : AccessModes) : Bool := s = empty

/-- The byte of a set: bit 0 for the first mode, up to bit 3 for the last. -/
def bits (s : AccessModes) : UInt8 :=
  s.read.toUInt8 + 2 * s.write.toUInt8 + 4 * s.copy.toUInt8 + 8 * s.replace.toUInt8

/-- The set that a byte stands for, if only the four mode bits are in use. -/
def ofBits? (bits : UInt8) : Option AccessModes :=
  if bits < 16 then
    some ⟨bits &&& 1 ≠ 0, bits &&& 2 ≠ 0, bits &&& 4 ≠ 0, bits &&& 8 ≠ 0⟩
  else none

/-- The text of a set, such as `[READ, COPY]`. -/
def text (s : AccessModes) : String := "[" ++ ", ".intercalate (s.toList.map (·.name)) ++ "]"

theorem ofBits?_bits (s : AccessModes) : ofBits? s.bits = some s := by
  obtain ⟨r, w, c, p⟩ := s
  revert r w c p
  decide

private theorem bits_of_ofBits? (n : Fin 256) :
    ∀ s ∈ ofBits? (UInt8.ofNat n.val), UInt8.ofNat n.val = s.bits := by
  revert n
  decide +kernel

/-- **A byte reads as a set exactly if it is the byte of that set.** -/
theorem ofBits?_eq_some_iff {b : UInt8} {s : AccessModes} : ofBits? b = some s ↔ b = s.bits := by
  refine ⟨fun h => ?_, fun h => h ▸ ofBits?_bits s⟩
  have hb := bits_of_ofBits? ⟨b.toNat, b.toNat_lt⟩ s
  simp only [UInt8.ofNat_toNat] at hb
  exact hb h

end AccessModes

end BlockAccess
