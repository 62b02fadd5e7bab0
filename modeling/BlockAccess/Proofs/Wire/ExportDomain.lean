import BlockAccess.Proofs.Wire.Correspondence
import BlockAccess.Proofs.Wire.ExportForm

/-!
# Which exports go through their wire form

The limit of the reader of exports is not a limit on lengths. Its account begins with the room for
all keys and then moves with every key, up or down, according to the length of the secret, so the
highest point can be anywhere: there are short forms that are refused and others, nearly as long as
the limit, that are read. `KeyExport.claimedAfter` gives the account from the lengths of the secrets
alone, and an export is read back exactly if none of its values is above the limit.

From the other side, the reader takes nothing but written forms. The records of a sequence are
compared with their writer one by one (`takes_of_readRecords`); the room that is still claimed for
the records to come is what keeps the account from being the number of bytes, so it is split off
before the induction.

## Main results

* `Canonical.sequence` — a sequence is read from its own bytes only.
* `KeyExport.readable_iff_claimedAfter` — what the reader can afford, counted in secrets.
* `export_form_domain` — which bytes are read, as what, and which exports are refused.
-/

namespace BlockAccess

namespace Wire

/-! ## Sequences -/

section Records

variable {α : Type} {room : Nat} {record : Reader α} {put : α → List UInt8}

/-- **Records that were read stood there in their written forms.** The room that was claimed for
them is given back, so that the account grows by what was taken. -/
theorem takes_of_readRecords (hrecord : Canonical record put) {n base : Nat}
    {bytes : List UInt8} {vs : List α} {left : Source} (hroom : base + room * n ≤ maxEncodedSize)
    (h : readRecords room record n ⟨bytes, base + room * n⟩ = .ok (vs, left)) :
    vs.length = n ∧ Source.Takes ⟨bytes, base⟩ (vs.flatMap put) left := by
  induction n generalizing base bytes vs with
  | zero =>
    cases h
    exact ⟨rfl, rfl, rfl, id⟩
  | succ n ih =>
    -- The room of the first record is given back before it is read.
    have hreleased : base + room * (n + 1) - room = base + room * n := by
      rw [Nat.mul_add_one]
      omega
    change (record >>= fun first => readRecords room record n >>= fun others =>
      Pure.pure (first :: others)) ⟨bytes, base + room * (n + 1) - room⟩ = _ at h
    rw [hreleased] at h
    obtain ⟨first, between, hfirst, h⟩ := bind_eq_ok h
    obtain ⟨others, last, hothers, hpure⟩ := bind_eq_ok h
    cases hpure
    obtain ⟨hrest, hclaimed, hbounded⟩ := hrecord hfirst
    simp only at hrest hclaimed hbounded
    have hlimit : base + room * n ≤ maxEncodedSize := by
      rw [Nat.mul_add_one] at hroom
      omega
    have hshift : between = ⟨between.rest, base + (put first).length + room * n⟩ := by
      cases between
      simp only at hclaimed
      rw [hclaimed, Nat.add_right_comm]
    rw [hshift] at hothers
    have hafter : base + (put first).length + room * n ≤ maxEncodedSize := by
      have hwithin := hbounded hlimit
      omega
    obtain ⟨hcount, htakes⟩ := ih hafter hothers
    have hone : Source.Takes ⟨bytes, base⟩ (put first)
        ⟨between.rest, base + (put first).length⟩ := by
      refine ⟨hrest, rfl, fun _ => ?_⟩
      show base + (put first).length ≤ maxEncodedSize
      omega
    rw [List.flatMap_cons]
    exact ⟨congrArg (· + 1) hcount, hone.append htakes⟩

/-- The number that was read is the number of the records that were taken. -/
theorem Canonical.sequence (hrecord : Canonical record put) :
    Canonical (readSequence room record) fun vs => putLength vs.length ++ vs.flatMap put := by
  intro source left vs h
  obtain ⟨count, counted, hcount, h⟩ := bind_eq_ok h
  obtain ⟨_, claimed, hclaim, hrecords⟩ := bind_eq_ok h
  obtain ⟨rfl, hroom⟩ := claim_eq_ok hclaim
  rw [Nat.mul_comm] at hroom hrecords
  obtain ⟨rfl, htakes⟩ := takes_of_readRecords hrecord hroom hrecords
  exact (Canonical.word 8 hcount).append htakes

end Records

end Wire

open Wire

/-! ## Keys and exports -/

theorem BlockKey.canonical_reader : Canonical reader wireBytes := by
  intro source left k h
  obtain ⟨id, s₁, hid, h⟩ := bind_eq_ok h
  obtain ⟨expiry, s₂, hexpiry, h⟩ := bind_eq_ok h
  obtain ⟨secret, s₃, hsecret, hpure⟩ := bind_eq_ok h
  cases hpure
  exact ((Canonical.uint32 hid).append (Canonical.int64 hexpiry)).append
    (Canonical.byteString hsecret)

namespace KeyExport

variable {e : KeyExport} {bytes : List UInt8}

/-- What the four parts were read from is the written form of the export. -/
theorem canonical_reader : Canonical reader encode := by
  intro source left e h
  obtain ⟨interval, s₁, hinterval, h⟩ := bind_eq_ok h
  obtain ⟨lifetime, s₂, hlifetime, h⟩ := bind_eq_ok h
  obtain ⟨current, s₃, hcurrent, h⟩ := bind_eq_ok h
  obtain ⟨others, s₄, hothers, hpure⟩ := bind_eq_ok h
  cases hpure
  have htakes := (((Canonical.uint64 hinterval).append (Canonical.uint64 hlifetime)).append
    (BlockKey.canonical_reader hcurrent)).append
    (Canonical.sequence BlockKey.canonical_reader hothers)
  rwa [← List.append_assoc] at htakes

/-- **What was read is written as the same bytes,** which are not too long. -/
theorem encode_of_decode (h : decode bytes = .ok e) :
    e.encode = bytes ∧ e.encode.length ≤ maxEncodedSize := by
  rw [decode, mapError_eq_ok_iff] at h
  obtain ⟨left, hread, hend⟩ := readExact_eq_ok h
  obtain ⟨hbytes, hlimit⟩ := (canonical_reader hread).whole hend
  exact ⟨hbytes.symm, hlimit⟩

/-- The number of keys and the lengths of all secrets fit into the 64 bits in which they are
written. Nothing longer can be held in memory. -/
def Addressable (e : KeyExport) : Prop :=
  e.others.length < UInt64.size ∧ ∀ k ∈ e.current :: e.others, k.secret.length < UInt64.size

/-- What the reader has claimed when it has read `i` of the keys after the current one: these by the
lengths of their secrets, those to come by their room. -/
def claimedAfter (e : KeyExport) (i : Nat) : Nat :=
  24 + (20 + e.current.secret.length) + ((e.others.take i).map fun k => 20 + k.secret.length).sum
    + 40 * (e.others.length - i)

theorem accountAt_eq_claimedAfter (e : KeyExport) (i : Nat) :
    accountAt keyRoom BlockKey.wireBytes e.others (24 + e.current.wireBytes.length) i
      = e.claimedAfter i := by
  simp only [accountAt, claimedAfter, List.length_flatMap, BlockKey.length_wireBytes, keyRoom]

/-- **The reader can afford an export if its account never rises above the limit.** -/
theorem readable_iff_claimedAfter :
    e.Readable ↔ ∀ i ≤ e.others.length, e.claimedAfter i ≤ 65536 := by
  simp only [Readable, Affordable, accountAt_eq_claimedAfter, maxEncodedSize]

/-- At the end the account is the length of the form. -/
theorem Readable.length_encode_le (h : e.Readable) : e.encode.length ≤ maxEncodedSize := by
  have hend := h e.others.length (Nat.le_refl _)
  rw [accountAt, List.take_length, Nat.sub_self, Nat.mul_zero] at hend
  rwa [length_encode]

/-- Every key takes 20 bytes and those of its secret. -/
private theorem lengths_le_flatMap (ks : List BlockKey) :
    ks.length ≤ (ks.flatMap BlockKey.wireBytes).length ∧
      ∀ k ∈ ks, k.secret.length ≤ (ks.flatMap BlockKey.wireBytes).length := by
  induction ks with
  | nil => simp
  | cons first rest ih =>
    simp only [List.flatMap_cons, List.length_append, List.length_cons,
      BlockKey.length_wireBytes]
    refine ⟨by omega, fun k hk => ?_⟩
    rcases List.mem_cons.1 hk with rfl | hlater
    · omega
    · have hle := ih.2 k hlater
      omega

/-- A form that is not too long has no part whose length could not be written. -/
theorem addressable_of_length_encode (h : e.encode.length ≤ maxEncodedSize) : e.Addressable := by
  obtain ⟨hcount, hsecrets⟩ := lengths_le_flatMap e.others
  rw [length_encode, BlockKey.length_wireBytes] at h
  simp only [maxEncodedSize] at h
  unfold Addressable
  simp only [UInt64.size]
  refine ⟨by omega, fun k hk => ?_⟩
  rcases List.mem_cons.1 hk with rfl | hother
  · omega
  · have hle := hsecrets k hother
    omega

/-- The reader in full, for exports that can be held in memory. -/
theorem Addressable.decode_encode (h : e.Addressable) :
    decode e.encode =
      if ∀ i ≤ e.others.length, e.claimedAfter i ≤ 65536 then .ok e
      else .error (.malformedKeys (.unreadable .limitExceeded)) := by
  have hsize : UInt64.size = 256 ^ 8 := rfl
  have hcount : e.others.length < 256 ^ 8 := hsize ▸ h.1
  have hsecrets : ∀ k ∈ e.current :: e.others, k.secret.length < 256 ^ 8 := hsize ▸ h.2
  rw [KeyExport.decode_encode hcount hsecrets]
  simp only [readable_iff_claimedAfter]

end KeyExport

/-- **The domain of the form of exports.** Bytes are read as an export if and only if they are its
written form and the account of the reader never rises above 65536, at no number of keys that have
been read. An export whose account does so is refused because of the limit, and not for any other
reason. -/
theorem export_form_domain (e : KeyExport) :
    (∀ bytes, KeyExport.decode bytes = .ok e ↔
      e.encode = bytes ∧ ∀ i ≤ e.others.length,
        24 + (20 + e.current.secret.length)
          + ((e.others.take i).map fun k => 20 + k.secret.length).sum
          + 40 * (e.others.length - i) ≤ 65536) ∧
    (e.Addressable →
      (∃ i ≤ e.others.length, 65536 < 24 + (20 + e.current.secret.length)
          + ((e.others.take i).map fun k => 20 + k.secret.length).sum
          + 40 * (e.others.length - i)) →
      KeyExport.decode e.encode = .error (.malformedKeys (.unreadable .limitExceeded))) := by
  constructor
  · intro bytes
    constructor
    · intro hread
      obtain ⟨rfl, hlength⟩ := KeyExport.encode_of_decode hread
      refine ⟨rfl, ?_⟩
      by_contra hover
      have hrefused := (KeyExport.addressable_of_length_encode hlength).decode_encode
      rw [if_neg (show ¬ ∀ i ≤ e.others.length, e.claimedAfter i ≤ 65536 from hover), hread]
        at hrefused
      cases hrefused
    · rintro ⟨rfl, hroom⟩
      have hlength := (KeyExport.readable_iff_claimedAfter.2 hroom).length_encode_le
      rw [(KeyExport.addressable_of_length_encode hlength).decode_encode]
      exact if_pos hroom
  · rintro haddressable ⟨i, hi, hover⟩
    rw [haddressable.decode_encode]
    exact if_neg fun hroom => Nat.not_le.2 hover (hroom i hi)

/-- An export in which a key with a secret of `length` bytes is followed by `keys` keys without. -/
def KeyExport.longSecretFirst (length keys : Nat) : KeyExport :=
  ⟨1, 1, ⟨1, ⟨0⟩, []⟩, ⟨2, ⟨0⟩, List.replicate length 0⟩ :: List.replicate keys ⟨3, ⟨0⟩, []⟩⟩

private theorem longSecretFirst_sizes (length keys : Nat) :
    (KeyExport.longSecretFirst length keys).encode.length = 64 + length + 20 * keys ∧
      (KeyExport.longSecretFirst length keys).claimedAfter 0 = 84 + 40 * keys ∧
      (KeyExport.longSecretFirst length keys).claimedAfter 1 = 64 + length + 40 * keys := by
  simp only [KeyExport.length_encode, KeyExport.claimedAfter, KeyExport.longSecretFirst,
    BlockKey.length_wireBytes, List.length_flatMap, List.map_cons, List.map_replicate,
    List.sum_cons, List.sum_replicate_nat, List.length_cons, List.length_replicate,
    List.length_nil, List.take_zero, List.take_succ_cons, List.map_nil, List.sum_nil]
  omega

private theorem addressable_longSecretFirst {length keys : Nat} (hlength : length < UInt64.size)
    (hkeys : keys + 1 < UInt64.size) : (KeyExport.longSecretFirst length keys).Addressable := by
  refine ⟨by simpa [KeyExport.longSecretFirst] using hkeys, fun k hk => ?_⟩
  simp only [KeyExport.longSecretFirst, List.mem_cons, List.mem_replicate] at hk
  rcases hk with rfl | rfl | ⟨-, rfl⟩
  · decide
  · rwa [List.length_replicate]
  · decide

/-- Only when the key with the long secret has been read is the account above the limit: the form is
not longer than that, and neither is the room that is claimed at first. -/
theorem export_form_domain_at_inner_peak :
    (KeyExport.longSecretFirst 64000 50).encode.length = 65064 ∧
    (KeyExport.longSecretFirst 64000 50).claimedAfter 0 = 2084 ∧
    KeyExport.decode (KeyExport.longSecretFirst 64000 50).encode
      = .error (.malformedKeys (.unreadable .limitExceeded)) ∧
    KeyExport.decode (KeyExport.longSecretFirst 0 2).encode = .ok (.longSecretFirst 0 2) := by
  obtain ⟨hlength, hstart, hpeak⟩ := longSecretFirst_sizes 64000 50
  have haddressable : (KeyExport.longSecretFirst 64000 50).Addressable :=
    addressable_longSecretFirst (by decide) (by decide)
  have hrefused (e : KeyExport) (he : e.Addressable) (hone : 1 ≤ e.others.length)
      (hover : 65536 < e.claimedAfter 1) := (export_form_domain e).2 he ⟨1, hone, hover⟩
  refine ⟨hlength, hstart, hrefused _ haddressable (Nat.le_add_left 1 _) (by omega), ?_⟩
  exact ((export_form_domain _).1 _).2 ⟨rfl, by decide⟩

end BlockAccess
