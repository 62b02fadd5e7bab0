import BlockAccess.Key.Export
import BlockAccess.Proofs.Wire.RoundTrip

/-!
# Key exports and the limit of their reader

An export may be written at any length, while what its reader takes in is limited. So besides the
value that is read there is the question where reading stops. For a field it stops exactly if the
field as it was written does not fit into what is left of the limit (`ReadsWithin`). A sequence of
records is different, since the room for all of them is claimed before the first is read, and given
back one by one: its account goes up and down, and has to stay within the limit all the way
(`Affordable`). Where a record takes as much as its room or more, the account only goes up, and the
length of the written form decides.

## Main results

* `readRecords_eq_ite` — when a sequence of records is read.
* `KeyExport.decode_encode` — when an export is read back, and how it is refused otherwise.
* `KeyExport.readable_iff_length` — what this means for keys whose secrets are not too short.
-/

namespace BlockAccess.Wire

/-! ## Fields that are read unless the limit is in the way -/

/-- **The reader takes `v` from `bytes` if its account has room for them,** and otherwise stops at
the limit. -/
structure ReadsWithin {α : Type} (r : Reader α) (bytes : List UInt8) (v : α) : Prop where
  reads : Reads r bytes v
  stops : ∀ (rest : List UInt8) (claimed : Nat), claimed ≤ maxEncodedSize →
    maxEncodedSize < claimed + bytes.length → r ⟨bytes ++ rest, claimed⟩ = .error .limitExceeded

/-- A value that was read is only put into another form. -/
theorem run_map {α β : Type} (r : Reader α) (f : α → β) (source : Source) :
    (r >>= fun a => Pure.pure (f a)) source = (r source).map fun p => (f p.1, p.2) := by
  show (r source >>= fun p => Except.ok (f p.1, p.2)) = _
  cases r source <;> rfl

namespace ReadsWithin

variable {α β : Type} {r : Reader α} {v : α} {bytes : List UInt8}

/-- What a reader makes of a field, and what is left to those after it. -/
theorem run_bind (h : ReadsWithin r bytes v) (f : α → Reader β) (rest : List UInt8) {claimed : Nat}
    (hclaimed : claimed ≤ maxEncodedSize) :
    (r >>= f) ⟨bytes ++ rest, claimed⟩ =
      if claimed + bytes.length ≤ maxEncodedSize then f v ⟨rest, claimed + bytes.length⟩
      else .error .limitExceeded := by
  show (r ⟨bytes ++ rest, claimed⟩ >>= fun p => f p.1 p.2) = _
  split
  · rename_i hroom
    rw [h.reads rest claimed hroom]
    rfl
  · rename_i hover
    rw [h.stops rest claimed hclaimed (by omega)]
    rfl

theorem bind {f : α → Reader β} {w : β} {bytes' : List UInt8} (hr : ReadsWithin r bytes v)
    (hf : ReadsWithin (f v) bytes' w) : ReadsWithin (r >>= f) (bytes ++ bytes') w where
  reads := hr.reads.bind hf.reads
  stops := by
    intro rest claimed hclaimed hover
    rw [List.length_append] at hover
    rw [List.append_assoc, hr.run_bind f _ hclaimed]
    split
    · rename_i hroom
      exact hf.stops rest _ hroom (by omega)
    · rfl

/-- A reader that only puts the value into another form. -/
theorem map {w : β} {f : α → β} (hr : ReadsWithin r bytes v) (hw : f v = w) :
    ReadsWithin (r >>= fun a => Pure.pure (f a)) bytes w where
  reads := hr.reads.map hw
  stops := by
    intro rest claimed hclaimed hover
    rw [hr.run_bind _ _ hclaimed, if_neg (Nat.not_le.2 hover)]

/-- What does not fit is refused before any of it is taken. -/
theorem of_claim {n : Nat} {f : Unit → Reader α} (hn : bytes.length = n)
    (hreads : Reads (claim n >>= f) bytes v) : ReadsWithin (claim n >>= f) bytes v where
  reads := hreads
  stops := by
    intro rest claimed _ hover
    show (claim n ⟨bytes ++ rest, claimed⟩ >>= fun p => f p.1 p.2) = _
    rw [claim, if_neg (by simp only; omega)]
    rfl

theorem word {width n : Nat} (hn : n < 256 ^ width) :
    ReadsWithin (readWord width) (bigEndian width n) n :=
  of_claim (length_bigEndian width n) (Reads.word hn)

theorem uint32 (n : UInt32) : ReadsWithin readUInt32 (putUInt32 n) n := by
  have hword : ReadsWithin (readWord 4) (putUInt32 n) n.toNat := word n.toNat_lt
  exact hword.map UInt32.ofNat_toNat

theorem uint64 (n : UInt64) : ReadsWithin readUInt64 (putUInt64 n) n := by
  have hword : ReadsWithin (readWord 8) (putUInt64 n) n.toNat := word n.toNat_lt
  exact hword.map UInt64.ofNat_toNat

theorem int64 (n : Int64) : ReadsWithin readInt64 (putInt64 n) n :=
  (uint64 n.toUInt64).map (by simp)

/-- The length of a byte sequence must fit into its 64 bits: a longer sequence is announced by a
number that is too small, and may then be read as something else. -/
theorem byteString {bs : List UInt8} (hlength : bs.length < 256 ^ 8) :
    ReadsWithin readBytes (putBytes bs) bs :=
  (word hlength).bind (of_claim rfl (Reads.claim_takeBytes bs))

end ReadsWithin

/-! ## Sequences of records -/

section Records

variable {α : Type} {room : Nat} {record : Reader α} {put : α → List UInt8}

/-- The account of the reader when `i` of the records have been read, if it stood at `base` before
any room was claimed: those are counted as they were written, the others by their room. -/
def accountAt (room : Nat) (put : α → List UInt8) (vs : List α) (base i : Nat) : Nat :=
  base + ((vs.take i).flatMap put).length + room * (vs.length - i)

/-- **The account stays within the limit while the records are read.** -/
def Affordable (room : Nat) (put : α → List UInt8) (vs : List α) (base : Nat) : Prop :=
  ∀ i ≤ vs.length, accountAt room put vs base i ≤ maxEncodedSize

instance (vs : List α) (base : Nat) : Decidable (Affordable room put vs base) :=
  inferInstanceAs (Decidable (∀ i ≤ vs.length, _))

theorem affordable_nil {base : Nat} : Affordable room put [] base ↔ base ≤ maxEncodedSize := by
  constructor
  · intro h
    simpa [accountAt] using h 0 (Nat.zero_le _)
  · intro h i _
    simpa [accountAt] using h

/-- The room of all records is claimed at once. -/
theorem Affordable.start {vs : List α} {base : Nat} (h : Affordable room put vs base) :
    base + room * vs.length ≤ maxEncodedSize := by
  simpa [accountAt] using h 0 (Nat.zero_le _)

theorem not_affordable_of_lt {vs : List α} {base : Nat}
    (hover : maxEncodedSize < base + room * vs.length) : ¬ Affordable room put vs base :=
  fun h => Nat.not_le.2 hover h.start

/-- The account begins with the room of all records; from then on it is that of the records after
the first. -/
theorem affordable_cons {v : α} {vs : List α} {base : Nat} :
    Affordable room put (v :: vs) base ↔
      base + room * (vs.length + 1) ≤ maxEncodedSize ∧
        Affordable room put vs (base + (put v).length) := by
  have hshift (i : Nat) : accountAt room put (v :: vs) base (i + 1)
      = accountAt room put vs (base + (put v).length) i := by
    simp only [accountAt, List.take_succ_cons, List.flatMap_cons, List.length_append,
      List.length_cons, Nat.add_sub_add_right]
    omega
  constructor
  · intro h
    refine ⟨h.start, fun i hi => ?_⟩
    rw [← hshift]
    exact h (i + 1) (Nat.succ_le_succ hi)
  · rintro ⟨hfirst, hrest⟩ i hi
    cases i with
    | zero => simpa [accountAt] using hfirst
    | succ i =>
      rw [hshift]
      exact hrest i (Nat.le_of_succ_le_succ hi)

/-- Where no record is smaller than its room, the account is greatest at the end. -/
theorem affordable_iff_of_room_le {vs : List α} (hroom : ∀ v ∈ vs, room ≤ (put v).length)
    {base : Nat} :
    Affordable room put vs base ↔ base + (vs.flatMap put).length ≤ maxEncodedSize := by
  induction vs generalizing base with
  | nil => simp [affordable_nil]
  | cons v vs ih =>
    have hfirst := hroom v (List.mem_cons_self ..)
    have hrest : Affordable room put vs (base + (put v).length) ↔
        base + (put v).length + (vs.flatMap put).length ≤ maxEncodedSize :=
      ih fun w hw => hroom w (List.mem_cons_of_mem _ hw)
    rw [affordable_cons, hrest, List.flatMap_cons, List.length_append, ← Nat.add_assoc]
    refine ⟨And.right, fun hend => ⟨?_, hend⟩⟩
    have hsecond := (hrest.2 hend).start
    rw [Nat.mul_add_one]
    omega

/-- **When a sequence of records is read.** The room for all of them has been claimed before. -/
theorem readRecords_eq_ite {vs : List α} (hrecord : ∀ v ∈ vs, ReadsWithin record (put v) v)
    (rest : List UInt8) {base : Nat} (hbase : base + room * vs.length ≤ maxEncodedSize) :
    readRecords room record vs.length ⟨vs.flatMap put ++ rest, base + room * vs.length⟩ =
      if Affordable room put vs base then .ok (vs, ⟨rest, base + (vs.flatMap put).length⟩)
      else .error .limitExceeded := by
  induction vs generalizing base with
  | nil =>
    have hempty : Affordable room put [] base := affordable_nil.2 hbase
    rw [if_pos hempty]
    rfl
  | cons v vs ih =>
    have hfirst := hrecord v (List.mem_cons_self ..)
    have hothers (w : α) (hw : w ∈ vs) := hrecord w (List.mem_cons_of_mem _ hw)
    rw [List.length_cons, Nat.mul_add_one] at hbase ⊢
    have hsplit : Affordable room put (v :: vs) base ↔
        Affordable room put vs (base + (put v).length) := by
      rw [affordable_cons, Nat.mul_add_one]
      exact and_iff_right hbase
    -- The room of the first record is given back, and the record is read.
    show (record >>= fun first => readRecords room record vs.length >>= fun others =>
      Pure.pure (first :: others)) ⟨_, base + (room * vs.length + room) - room⟩ = _
    rw [show base + (room * vs.length + room) - room = base + room * vs.length by omega,
      List.flatMap_cons, List.append_assoc, hfirst.run_bind _ _ (by omega)]
    simp only [hsplit]
    split
    · rename_i hroom
      have hbase' : base + (put v).length + room * vs.length ≤ maxEncodedSize := by omega
      rw [run_map, Nat.add_right_comm, ih hothers hbase', List.length_append, ← Nat.add_assoc]
      split <;> rfl
    · rename_i hover
      rw [if_neg (not_affordable_of_lt (by omega))]

/-- The number of records must fit into its 64 bits. -/
theorem readSequence_eq_ite {vs : List α} (hrecord : ∀ v ∈ vs, ReadsWithin record (put v) v)
    (hcount : vs.length < 256 ^ 8) (rest : List UInt8) {claimed : Nat}
    (hclaimed : claimed ≤ maxEncodedSize) :
    readSequence room record ⟨putLength vs.length ++ (vs.flatMap put ++ rest), claimed⟩ =
      if Affordable room put vs (claimed + 8) then
        .ok (vs, ⟨rest, claimed + 8 + (vs.flatMap put).length⟩)
      else .error .limitExceeded := by
  rw [readSequence, putLength, (ReadsWithin.word hcount).run_bind _ _ hclaimed, length_bigEndian]
  split
  · show (claim (vs.length * room) ⟨_, claimed + 8⟩ >>= fun p =>
      readRecords room record vs.length p.2) = _
    rw [claim, Nat.mul_comm]
    split
    · rename_i hbase
      exact readRecords_eq_ite hrecord rest hbase
    · rename_i hover
      rw [if_neg (not_affordable_of_lt (Nat.not_le.1 hover))]
      rfl
  · rename_i hover
    rw [if_neg (not_affordable_of_lt (by omega))]

end Records

end BlockAccess.Wire

namespace BlockAccess

open Wire

/-! ## Keys -/

namespace BlockKey

/-- The id, the expiry and the length of the secret take 20 bytes. -/
theorem length_wireBytes (k : BlockKey) : k.wireBytes.length = 20 + k.secret.length := by
  simp only [wireBytes, List.length_append, length_putUInt32, length_putInt64, length_putBytes]
  omega

theorem readsWithin_reader {k : BlockKey} (hsecret : k.secret.length < 256 ^ 8) :
    ReadsWithin reader k.wireBytes k := by
  rw [wireBytes, List.append_assoc]
  refine (ReadsWithin.uint32 k.id).bind ?_
  refine (ReadsWithin.int64 k.expiry.millis).bind ?_
  exact (ReadsWithin.byteString hsecret).map rfl

end BlockKey

/-! ## Exports -/

namespace KeyExport

/-- **The reader of exports can afford the export.** -/
def Readable (e : KeyExport) : Prop :=
  Affordable keyRoom BlockKey.wireBytes e.others (24 + e.current.wireBytes.length)

instance (e : KeyExport) : Decidable e.Readable :=
  inferInstanceAs (Decidable (Affordable _ _ _ _))

/-- The durations, the current key, and the number of the others before these. -/
theorem length_encode (e : KeyExport) :
    e.encode.length
      = 24 + e.current.wireBytes.length + (e.others.flatMap BlockKey.wireBytes).length := by
  simp only [encode, List.length_append, length_putUInt64, length_putLength]
  omega

private theorem run_reader {e : KeyExport} (hcount : e.others.length < 256 ^ 8)
    (hsecrets : ∀ k ∈ e.current :: e.others, k.secret.length < 256 ^ 8) :
    reader (.ofBytes e.encode) =
      if e.Readable then .ok (e, ⟨[], e.encode.length⟩) else .error .limitExceeded := by
  have hcurrent := BlockKey.readsWithin_reader (hsecrets e.current (List.mem_cons_self ..))
  have hothers (k : BlockKey) (hk : k ∈ e.others) :=
    BlockKey.readsWithin_reader (hsecrets k (List.mem_cons_of_mem _ hk))
  have hdurations (n : Nat) (hn : n ≤ 16) : n ≤ maxEncodedSize := by
    simp only [maxEncodedSize]
    omega
  have hbase : 0 + 8 + 8 + e.current.wireBytes.length + 8 = 24 + e.current.wireBytes.length := by
    omega
  have hform : e.encode = putUInt64 e.interval ++ (putUInt64 e.lifetime ++ (e.current.wireBytes
      ++ (putLength e.others.length ++ (e.others.flatMap BlockKey.wireBytes ++ [])))) := by
    simp only [encode, List.append_assoc, List.append_nil]
  rw [Source.ofBytes, length_encode, hform, reader,
    (ReadsWithin.uint64 e.interval).run_bind _ _ (Nat.zero_le _), length_putUInt64,
    if_pos (hdurations _ (by omega)),
    (ReadsWithin.uint64 e.lifetime).run_bind _ _ (hdurations _ (by omega)), length_putUInt64,
    if_pos (hdurations _ (by omega)), hcurrent.run_bind _ _ (hdurations _ (by omega))]
  split
  · rename_i hroom
    rw [run_map, readSequence_eq_ite hothers hcount [] hroom]
    simp only [hbase]
    split
    · rename_i h
      exact (if_pos h).symm
    · rename_i h
      exact (if_neg h).symm
  · rename_i hover
    have hnot : ¬ e.Readable := not_affordable_of_lt (by omega)
    exact (if_neg hnot).symm

/-- **What the reader makes of a written export.** The numbers of bytes and of keys must fit into
the 64 bits in which they are written. -/
theorem decode_encode {e : KeyExport} (hcount : e.others.length < 256 ^ 8)
    (hsecrets : ∀ k ∈ e.current :: e.others, k.secret.length < 256 ^ 8) :
    decode e.encode =
      if e.Readable then .ok e else .error (.malformedKeys (.unreadable .limitExceeded)) := by
  rw [decode, readExact, Reader.readAll, run_reader hcount hsecrets]
  by_cases h : e.Readable
  · rw [if_pos h, if_pos h]
    rfl
  · rw [if_neg h, if_neg h]
    rfl

/-- **An export whose keys have secrets of 20 bytes or more is readable as long as it is not longer
than the limit.** -/
theorem readable_iff_length {e : KeyExport} (hsecrets : ∀ k ∈ e.others, 20 ≤ k.secret.length) :
    e.Readable ↔ e.encode.length ≤ maxEncodedSize := by
  rw [Readable, length_encode]
  refine affordable_iff_of_room_le fun k hk => ?_
  have hsecret := hsecrets k hk
  rw [k.length_wireBytes, keyRoom]
  omega

end KeyExport

end BlockAccess
