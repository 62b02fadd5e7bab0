import BlockAccess.Proofs.Json.Printed
import BlockAccess.Proofs.Wire.ExportDomain

/-!
# Exports go through JSON

The text of an export is a record of records. For each kind of record there is the list of its
fields with what is written and what is read (`jsonFields`), and from that it follows that the text
writes a value and that the value is read as what was written. Every part has room for all values of
its type, so that nothing is asked of an export.

Of the two ways in which an export travels only the one as bytes has a limit. What gets through
there gets through as JSON, and is the same export.

## Main results

* `BlockKey.ofJson_jsonText` — a key is read back from its text.
* `export_text_round_trip` — an export is read back from its text, and from its bytes as nothing
  else.
-/

namespace BlockAccess

open Json

namespace BlockKey

/-- The fields of a key in JSON. -/
def jsonFields (k : BlockKey) : List Field := [
  ⟨"key_id", toString k.id.toNat, .ofInt k.id.toNat⟩,
  ⟨"expiry_date", k.expiry.decimal, .ofInt k.expiry.millis.toInt⟩,
  ⟨"secret", arrayText (k.secret.map fun b => toString b.toNat),
    .array (k.secret.map fun b => .ofInt b.toNat)⟩]

/-- The value that a key is written as. -/
def jsonValue (k : BlockKey) : Value := .object (k.jsonFields.map Field.member)

theorem names_jsonFields (k : BlockKey) : k.jsonFields.map Field.name = fieldNames := rfl

theorem writes_jsonText (k : BlockKey) : Writes k.jsonText k.jsonValue := by
  have hnames : (k.jsonFields.map Field.name).all isPlain = true := by
    rw [names_jsonFields]
    rfl
  have htexts : ∀ f ∈ k.jsonFields, Writes f.text f.value := by
    simp only [jsonFields, List.forall_mem_cons]
    refine ⟨writes_nat _, writes_int _, writes_array _ fun b _ => writes_nat _, ?_⟩
    exact fun _ hnone => absurd hnone List.not_mem_nil
  exact writes_object k.jsonFields hnames htexts

/-- The bytes of a secret, each as a number. -/
theorem bytes?_array (secret : List UInt8) :
    (Value.array (secret.map fun b => .ofInt b.toNat)).bytes? = some secret := by
  show (secret.map fun b => Value.ofInt b.toNat).mapM Value.uint8? = some secret
  induction secret with
  | nil => rfl
  | cons b secret ih =>
    rw [List.map_cons, List.mapM_cons, Value.uint8?_ofInt, ih]
    rfl

theorem ofValue?_jsonValue (k : BlockKey) : ofValue? k.jsonValue = some k := by
  have hdistinct : (k.jsonFields.map Field.name).Nodup := by
    rw [names_jsonFields]
    decide
  rw [ofValue?, jsonValue, ← names_jsonFields k, fields?_object _ hdistinct]
  simp only [jsonFields, List.map_cons, List.map_nil, Value.uint32?_ofInt, Value.int64?_ofInt,
    bytes?_array]
  rfl

/-- **A key is read back from its text.** -/
theorem ofJson_jsonText (k : BlockKey) : ofJson k.jsonText = .ok k := by
  rw [ofJson, ofJsonText, parse?_of_writes k.writes_jsonText, Option.bind_some,
    ofValue?_jsonValue]

end BlockKey

namespace KeyExport

/-- The fields of an export in JSON. -/
def jsonFields (e : KeyExport) : List Field := [
  ⟨"key_update_interval_ms", toString e.interval.toNat, .ofInt e.interval.toNat⟩,
  ⟨"token_lifetime_ms", toString e.lifetime.toNat, .ofInt e.lifetime.toNat⟩,
  ⟨"current_key", e.current.jsonText, e.current.jsonValue⟩,
  ⟨"all_keys", arrayText (e.others.map BlockKey.jsonText),
    .array (e.others.map BlockKey.jsonValue)⟩]

/-- The value that an export is written as. -/
def jsonValue (e : KeyExport) : Value := .object (e.jsonFields.map Field.member)

theorem names_jsonFields (e : KeyExport) : e.jsonFields.map Field.name = fieldNames := rfl

theorem writes_jsonText (e : KeyExport) : Writes e.jsonText e.jsonValue := by
  have hnames : (e.jsonFields.map Field.name).all isPlain = true := by
    rw [names_jsonFields]
    rfl
  have htexts : ∀ f ∈ e.jsonFields, Writes f.text f.value := by
    simp only [jsonFields, List.forall_mem_cons]
    refine ⟨writes_nat _, writes_nat _, e.current.writes_jsonText,
      writes_array _ fun k _ => k.writes_jsonText, ?_⟩
    exact fun _ hnone => absurd hnone List.not_mem_nil
  exact writes_object e.jsonFields hnames htexts

theorem list?_keys (ks : List BlockKey) :
    (Value.array (ks.map BlockKey.jsonValue)).list? BlockKey.ofValue? = some ks := by
  show (ks.map BlockKey.jsonValue).mapM BlockKey.ofValue? = some ks
  induction ks with
  | nil => rfl
  | cons k ks ih =>
    rw [List.map_cons, List.mapM_cons, BlockKey.ofValue?_jsonValue, ih]
    rfl

theorem ofValue?_jsonValue (e : KeyExport) : ofValue? e.jsonValue = some e := by
  have hdistinct : (e.jsonFields.map Field.name).Nodup := by
    rw [names_jsonFields]
    decide
  rw [ofValue?, jsonValue, ← names_jsonFields e, fields?_object _ hdistinct]
  simp only [jsonFields, List.map_cons, List.map_nil, Value.uint64?_ofInt,
    BlockKey.ofValue?_jsonValue, list?_keys]
  rfl

end KeyExport

/-- **An export is read back from its JSON text:** every key with its id, its expiry on either side
of the epoch and the bytes of its secret, however many there are of both, and both durations. Where
also its bytes are read, they are read as the same export as the text. -/
theorem export_text_round_trip (e : KeyExport) :
    KeyExport.ofJson e.jsonText = .ok e ∧
    ∀ received, KeyExport.decode e.encode = .ok received →
      KeyExport.ofJson e.jsonText = .ok received := by
  have htext : KeyExport.ofJson e.jsonText = .ok e := by
    rw [KeyExport.ofJson, ofJsonText, parse?_of_writes e.writes_jsonText, Option.bind_some,
      KeyExport.ofValue?_jsonValue]
  refine ⟨htext, fun received hreceived => ?_⟩
  -- The form is not too long, so that no length in it was cut off when it was written.
  obtain ⟨hsame, hlength⟩ := KeyExport.encode_of_decode hreceived
  rw [hsame] at hlength
  have hdecode := (KeyExport.addressable_of_length_encode hlength).decode_encode
  rw [hreceived] at hdecode
  split at hdecode
  · cases hdecode
    exact htext
  · cases hdecode

end BlockAccess
