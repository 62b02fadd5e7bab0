import BlockAccess.JsonForms
import BlockAccess.Wire.Coded

/-!
# Key exports

What a master hands to its slaves: the current key, the other keys of its window, and the two
durations it works with. An export travels as bytes or as JSON. Its wire form may be of any length;
only what is read is limited.
-/

namespace BlockAccess

/-- A snapshot of a key window. -/
structure KeyExport where
  interval : Millis
  lifetime : Millis
  current : BlockKey
  /-- The key that will be current next, then retired keys, newest first. -/
  others : List BlockKey
  deriving DecidableEq, Inhabited, Repr

namespace KeyExport

/-- The room that a key claims while a sequence of keys is read. -/
def keyRoom : Nat := 40

/-- The ids of the keys, the current one first. -/
def keyIds (e : KeyExport) : List KeyId := e.current.id :: e.others.map (·.id)

/-- **The wire form of an export:** both durations, the current key, and the number of the other
keys before these. -/
def encode (e : KeyExport) : List UInt8 :=
  Wire.putUInt64 e.interval ++ Wire.putUInt64 e.lifetime ++ e.current.wireBytes
    ++ Wire.putLength e.others.length ++ e.others.flatMap BlockKey.wireBytes

/-- Reads an export. -/
def reader : Wire.Reader KeyExport := do
  let interval ← Wire.readUInt64
  let lifetime ← Wire.readUInt64
  let current ← BlockKey.reader
  let others ← Wire.readSequence keyRoom BlockKey.reader
  return ⟨interval, lifetime, current, others⟩

/-- **The export of a wire form.** -/
def decode (bytes : List UInt8) : Except AccessError KeyExport :=
  (Wire.readExact .keys reader bytes).mapError .malformedKeys

/-- The names of the fields in JSON. -/
def fieldNames : List String :=
  ["key_update_interval_ms", "token_lifetime_ms", "current_key", "all_keys"]

/-- **The JSON text of an export.** -/
def jsonText (e : KeyExport) : String :=
  Json.objectText [
    ("key_update_interval_ms", toString e.interval.toNat),
    ("token_lifetime_ms", toString e.lifetime.toNat),
    ("current_key", e.current.jsonText),
    ("all_keys", Json.arrayText (e.others.map BlockKey.jsonText))]

/-- The export that a JSON value describes. -/
def ofValue? (v : Json.Value) : Option KeyExport :=
  match Json.fields? fieldNames v with
  | some [some interval, some lifetime, some current, some others] => do
    return ⟨← interval.uint64?, ← lifetime.uint64?, ← BlockKey.ofValue? current,
      ← others.list? BlockKey.ofValue?⟩
  | _ => none

/-- **The export that a JSON text describes.** -/
def ofJson (text : String) : Except AccessError KeyExport :=
  ofJsonText ofValue? text

end KeyExport

end BlockAccess
