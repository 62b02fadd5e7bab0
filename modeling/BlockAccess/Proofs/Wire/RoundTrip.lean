import BlockAccess.Identifier.Wire
import BlockAccess.Wire.BigEndian.Lemmas

/-!
# Reading back what was written

A wire form is the concatenation of its fields, and each field is read by a reader of its own. The
statement that survives concatenation is `Reads`: put in front of anything, the bytes are taken away
by the reader, it gives the value, and its account has grown by the number of the bytes. The account
and the length of the wire form therefore reach the limit together, and a form that could be written
is never refused for its size.

## Main results

* `Reads.bind` — fields one after the other.
* `readExact_of_reads` — a whole form that is not too long is read.
* `Identifier.decode_of_encode` — an identifier is read back from its wire form.
-/

namespace BlockAccess.Wire

/-- **The reader takes the value `v` from `bytes`,** whatever follows them, and claims as much as it
takes. -/
def Reads {α : Type} (r : Reader α) (bytes : List UInt8) (v : α) : Prop :=
  ∀ (rest : List UInt8) (claimed : Nat), claimed + bytes.length ≤ maxEncodedSize →
    r ⟨bytes ++ rest, claimed⟩ = .ok (v, ⟨rest, claimed + bytes.length⟩)

namespace Reads

variable {α β : Type} {r : Reader α} {v : α} {bytes : List UInt8}

theorem pure (v : α) : Reads (Pure.pure v) [] v := fun _ _ _ => rfl

theorem bind {f : α → Reader β} {w : β} {bytes' : List UInt8} (hr : Reads r bytes v)
    (hf : Reads (f v) bytes' w) : Reads (r >>= f) (bytes ++ bytes') w := by
  intro rest claimed hlimit
  rw [List.length_append] at hlimit
  have hfirst := hr (bytes' ++ rest) claimed (by omega)
  have hsecond := hf rest (claimed + bytes.length) (by omega)
  show (r ⟨bytes ++ bytes' ++ rest, claimed⟩ >>= fun p => f p.1 p.2) = _
  rw [List.append_assoc, hfirst, List.length_append, ← Nat.add_assoc]
  exact hsecond

/-- A reader that only puts the value into another form. -/
theorem map {w : β} {f : α → β} (hr : Reads r bytes v) (hw : f v = w) :
    Reads (r >>= fun a => Pure.pure (f a)) bytes w := by
  have h := bind (f := fun a => Pure.pure (f a)) hr (Reads.pure (f v))
  rwa [List.append_nil, hw] at h

/-- What is claimed before it is taken. -/
theorem claim_takeBytes (bs : List UInt8) :
    Reads (claim bs.length >>= fun _ => takeBytes bs.length) bs bs := by
  intro rest claimed hlimit
  show (claim bs.length ⟨bs ++ rest, claimed⟩ >>= fun p => takeBytes bs.length p.2) = _
  rw [claim, if_pos hlimit]
  show takeBytes bs.length ⟨bs ++ rest, claimed + bs.length⟩ = _
  simp only [takeBytes, List.take_left, List.drop_left, if_true]

theorem word {width n : Nat} (hn : n < 256 ^ width) :
    Reads (readWord width) (bigEndian width n) n := by
  have h := (claim_takeBytes (bigEndian width n)).map (f := ofBigEndian) (w := n)
    (by rw [ofBigEndian_bigEndian, Nat.mod_eq_of_lt hn])
  rw [length_bigEndian, bind_assoc] at h
  exact h

theorem uint8 (n : UInt8) : Reads readUInt8 (putUInt8 n) n := by
  have hput : bigEndian 1 n.toNat = putUInt8 n := by simp [bigEndian, putUInt8]
  have hword : Reads (readWord 1) (bigEndian 1 n.toNat) n.toNat := word n.toNat_lt
  rw [hput] at hword
  exact hword.map UInt8.ofNat_toNat

theorem uint32 (n : UInt32) : Reads readUInt32 (putUInt32 n) n := by
  have hword : Reads (readWord 4) (putUInt32 n) n.toNat := word n.toNat_lt
  exact hword.map UInt32.ofNat_toNat

theorem uint64 (n : UInt64) : Reads readUInt64 (putUInt64 n) n := by
  have hword : Reads (readWord 8) (putUInt64 n) n.toNat := word n.toNat_lt
  exact hword.map UInt64.ofNat_toNat

theorem int64 (n : Int64) : Reads readInt64 (putInt64 n) n :=
  (uint64 n.toUInt64).map (by simp)

/-- The length of a byte sequence fits into its 64 bits, since the limit is far below. -/
theorem byteString (bs : List UInt8) : Reads readBytes (putBytes bs) bs := by
  intro rest claimed hlimit
  have hlength : bs.length < 256 ^ 8 := by
    simp only [length_putBytes, maxEncodedSize] at hlimit
    omega
  exact ((word hlength).bind (claim_takeBytes bs)) rest claimed hlimit

theorem text (s : String) : Reads readText (putText s) s := by
  rw [← List.append_nil (putText s)]
  refine (byteString (utf8Bytes s)).bind ?_
  rw [readUtf8_utf8Bytes]
  exact Reads.pure s

end Reads

theorem readExact_of_reads {α : Type} {r : Reader α} {bytes : List UInt8} {v : α} (form : Form)
    (hr : Reads r bytes v) (hlimit : bytes.length ≤ maxEncodedSize) :
    readExact form r bytes = .ok v := by
  have hread := hr [] 0 (by omega)
  rw [List.append_nil] at hread
  simp only [readExact, Reader.readAll, Source.ofBytes, hread, List.isEmpty_nil, if_true]

/-- A form that was written is whole and within the limit. -/
theorem bounded_eq_ok_iff {form : Form} {bytes written : List UInt8} :
    bounded form bytes = .ok written ↔ bytes.length ≤ maxEncodedSize ∧ written = bytes := by
  unfold bounded
  split
  · rename_i hlimit
    simp only [Except.ok.injEq, hlimit, true_and, eq_comm]
  · rename_i hlimit
    simp only [reduceCtorEq, hlimit, false_and]

end BlockAccess.Wire

namespace BlockAccess.Identifier

open BlockAccess.Wire

/-- The fields are read in the order in which they are written; the modes are still a byte. -/
theorem reads_fieldsReader (x : Identifier) :
    Reads fieldsReader x.wireBytes
      ((⟨x.expiry, x.keyId, x.owner, x.block, ·⟩), x.modes.bits) := by
  simp only [wireBytes, List.append_assoc]
  refine (Reads.int64 x.expiry.millis).bind ?_
  refine (Reads.uint32 x.keyId).bind ?_
  refine (Reads.text x.owner).bind ?_
  refine (Reads.text x.block.pool).bind ?_
  refine (Reads.int64 x.block.id).bind ?_
  exact (Reads.uint8 x.modes.bits).map rfl

theorem encode_eq_ok_iff {x : Identifier} {bytes : List UInt8} :
    x.encode = .ok bytes ↔ x.wireBytes.length ≤ maxEncodedSize ∧ bytes = x.wireBytes := by
  have hbounded : bounded .identifier x.wireBytes = .ok bytes ↔ _ := bounded_eq_ok_iff
  rw [← hbounded, encode]
  cases bounded .identifier x.wireBytes <;> simp [Except.mapError]

/-- **An identifier is read back from its wire form.** -/
theorem decode_of_encode {x : Identifier} {bytes : List UInt8} (h : x.encode = .ok bytes) :
    decode bytes = .ok x := by
  obtain ⟨hlimit, hbytes⟩ := encode_eq_ok_iff.1 h
  have hread := readExact_of_reads .identifier x.reads_fieldsReader hlimit
  rw [hbytes, decode, hread]
  simp only [AccessModes.ofBits?_bits]

end BlockAccess.Identifier
