import BlockAccess.Decimal
import BlockAccess.Json.Parser

/-!
# JSON values of an expected shape

Readers for the shapes that records are made of. A record is written as an object, in which the
order of the members is free, unknown members are passed over and no known member occurs twice; or
as an array of its fields in their order. The choice among names is written as the bare name, or as
an object whose only member has that name and the value `null`.
-/

namespace BlockAccess.Json

namespace Value

/-- The integer that a value is. -/
def int? : Value → Option Int
  | number n => n.int?
  | null | bool _ | string _ | array _ | object _ => none

/-- The integer that a value is, if it is in the range `0 .. size - 1`. -/
def unsigned? (size : Nat) (v : Value) : Option Nat :=
  v.int?.bind fun n => if 0 ≤ n ∧ n < size then some n.toNat else none

def uint8? (v : Value) : Option UInt8 := (v.unsigned? UInt8.size).map UInt8.ofNat

def uint32? (v : Value) : Option UInt32 := (v.unsigned? UInt32.size).map UInt32.ofNat

def uint64? (v : Value) : Option UInt64 := (v.unsigned? UInt64.size).map UInt64.ofNat

/-- The signed 64-bit integer that a value is. -/
def int64? (v : Value) : Option Int64 :=
  v.int?.bind fun n => if fitsInt64 n then some (Int64.ofInt n) else none

def bool? : Value → Option Bool
  | bool b => some b
  | null | number _ | string _ | array _ | object _ => none

def text? : Value → Option String
  | string pieces => textOf? pieces
  | null | bool _ | number _ | array _ | object _ => none

/-- The bytes that a value is: an array of numbers below 256, or the bytes of a string. -/
def bytes? : Value → Option (List UInt8)
  | array items => items.mapM uint8?
  | string pieces => some (bytesOf pieces)
  | null | bool _ | number _ | object _ => none

def list? {α : Type} (item? : Value → Option α) : Value → Option (List α)
  | array items => items.mapM item?
  | null | bool _ | number _ | string _ | object _ => none

end Value

/-- The members of an object under their names, with every key a text, no known key twice and every
unknown member free of bare control characters. -/
def knownMembers? (names : List String) : Members → Option (List (String × Value))
  | [] => some []
  | (key, v) :: rest => do
    let name ← textOf? key
    let known ← knownMembers? names rest
    if names.contains name then
      if known.any (·.1 = name) then none else return (name, v) :: known
    else if v.isClean then return known
    else none

/-- The fields of a record, in the order of their names; `none` for a field that is not there. -/
def fields? (names : List String) : Value → Option (List (Option Value))
  | .object members =>
    (knownMembers? names members).map fun known => names.map fun name => List.lookup name known
  | .array items =>
    if items.length ≤ names.length then
      some (items.map some ++ List.replicate (names.length - items.length) none)
    else none
  | .null | .bool _ | .number _ | .string _ => none

/-- The name that a value chooses. -/
def choice? : Value → Option String
  | .string pieces => textOf? pieces
  | .object [(key, .null)] => textOf? key
  | .null | .bool _ | .number _ | .array _ | .object _ => none

end BlockAccess.Json
