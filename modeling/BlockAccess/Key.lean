import BlockAccess.Digest.Hmac
import BlockAccess.Identifier
import BlockAccess.Json.Printer
import BlockAccess.Json.Shape
import BlockAccess.Wire.Reader
import BlockAccess.Wire.Writer

/-!
# Signing keys

A key has a number, an expiry and a secret. It signs byte sequences with HMAC-SHA256; a signature
is recognised by signing again. Texts for people never show the secret.
-/

namespace BlockAccess

/-- A signing key. -/
structure BlockKey where
  id : KeyId
  expiry : Instant
  secret : List UInt8
  deriving DecidableEq, Inhabited, Repr

namespace BlockKey

/-- The length of the secret of a fresh key, in bytes. -/
def secretLength : Nat := 64

/-- Whether the key has run out. At its expiry it is still good. -/
def isExpired (k : BlockKey) (now : Instant) : Bool := k.expiry.isPast now

theorem isExpired_eq_false_iff {k : BlockKey} {now : Instant} :
    k.isExpired now = false ↔ now ≤ k.expiry := Instant.isPast_eq_false_iff

/-- The test by which keys are filtered. -/
theorem not_isExpired_iff {k : BlockKey} {now : Instant} :
    (!k.isExpired now) = true ↔ now ≤ k.expiry := by
  rw [Bool.not_eq_true', isExpired_eq_false_iff]

/-- The same key with its expiry moved. -/
def withExpiry (k : BlockKey) (expiry : Instant) : BlockKey := { k with expiry }

/-- The same key, good until `expiry` at least. -/
def extendedTo (k : BlockKey) (expiry : Instant) : BlockKey := k.withExpiry (max k.expiry expiry)

/-- **The password of a message under a key.** -/
def sign (k : BlockKey) (message : List UInt8) : List UInt8 :=
  Digest.hmacSha256 k.secret message

@[simp] theorem length_sign (k : BlockKey) (message : List UInt8) :
    (k.sign message).length = 32 := Digest.length_hmacSha256 ..

/-- Whether a password is that of a message under the key. -/
def verifies (k : BlockKey) (message password : List UInt8) : Bool := k.sign message = password

/-- The first of the keys that verifies a message. -/
def firstVerifying? (keys : List BlockKey) (message password : List UInt8) : Option BlockKey :=
  keys.find? (·.verifies message password)

/-- A line about a key that keeps its secret. -/
def redactedText (k : BlockKey) : String :=
  "BlockKey \x7b key_id: " ++ toString k.id.toNat ++ ", expiry_date: " ++ k.expiry.decimal
    ++ ", secret: SecretBytes([REDACTED; " ++ toString k.secret.length ++ "]) \x7d"

/-- The wire form of a key: id, expiry and secret. -/
def wireBytes (k : BlockKey) : List UInt8 :=
  Wire.putUInt32 k.id ++ Wire.putInt64 k.expiry.millis ++ Wire.putBytes k.secret

/-- Reads a key. -/
def reader : Wire.Reader BlockKey := do
  let id ← Wire.readUInt32
  let expiry ← Wire.readInt64
  let secret ← Wire.readBytes
  return ⟨id, ⟨expiry⟩, secret⟩

/-- The names of the fields in JSON. -/
def fieldNames : List String := ["key_id", "expiry_date", "secret"]

/-- The JSON text of a key. The secret is an array of its bytes. -/
def jsonText (k : BlockKey) : String :=
  Json.objectText [
    ("key_id", toString k.id.toNat),
    ("expiry_date", k.expiry.decimal),
    ("secret", Json.arrayText (k.secret.map fun b => toString b.toNat))]

/-- The key that a JSON value describes. -/
def ofValue? (v : Json.Value) : Option BlockKey :=
  match Json.fields? fieldNames v with
  | some [some id, some expiry, some secret] => do
    return ⟨← id.uint32?, ⟨← expiry.int64?⟩, ← secret.bytes?⟩
  | _ => none

end BlockKey

end BlockAccess
