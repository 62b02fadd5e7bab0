import BlockAccess.Proofs.Wire.RoundTrip

/-!
# Reading nothing but what is written

A written form is read back, and this module is the way from the other side: whatever bytes a reader
accepts, they are the written form of the value that it gives. Each reader is compared with the
writer of the same name (`Canonical`). What a reader does to its source is put as one relation:
`Source.Takes` says which bytes have gone, and that just these have been claimed. Steps of this kind
compose, so the bytes taken by the reader of a record are those of its fields one after the other.

## Main results

* `Canonical.text` — a text is read from its own bytes only.
* `Source.Takes.whole` — what was taken as a whole is the written form, and within the limit.
* `Identifier.decode_eq_ok_iff` — an identifier is read from its own wire form and nothing else.
-/

namespace BlockAccess.Wire

/-! ## Steps of a reader -/

/-- **What remains of `source` when `bytes` have been claimed and taken** is `left`. -/
structure Source.Takes (source : Source) (bytes : List UInt8) (left : Source) : Prop where
  rest : source.rest = bytes ++ left.rest
  claimed : left.claimed = source.claimed + bytes.length
  bounded : source.claimed ≤ maxEncodedSize → left.claimed ≤ maxEncodedSize

theorem Source.Takes.append {source between left : Source} {bytes bytes' : List UInt8}
    (h : source.Takes bytes between) (h' : between.Takes bytes' left) :
    source.Takes (bytes ++ bytes') left where
  rest := by rw [h.rest, h'.rest, List.append_assoc]
  claimed := by
    rw [h'.claimed, h.claimed, List.length_append]
    omega
  bounded hsource := h'.bounded (h.bounded hsource)

/-- All that was taken from the beginning to the end is all there was. -/
theorem Source.Takes.whole {bytes form : List UInt8} {left : Source}
    (h : (Source.ofBytes bytes).Takes form left) (hend : left.rest = []) :
    bytes = form ∧ form.length ≤ maxEncodedSize := by
  have hrest := h.rest
  have hclaimed := h.claimed
  have hbounded := h.bounded (Nat.zero_le _)
  simp only [ofBytes, hend, List.append_nil] at hrest hclaimed
  exact ⟨hrest, by omega⟩

section Steps

variable {α β : Type} {source left : Source}

/-- A reader in two steps succeeds by both of them. -/
theorem bind_eq_ok {r : Reader α} {f : α → Reader β} {w : β}
    (h : (r >>= f) source = .ok (w, left)) :
    ∃ v between, r source = .ok (v, between) ∧ f v between = .ok (w, left) := by
  change (r source >>= fun p => f p.1 p.2) = .ok (w, left) at h
  rcases hr : r source with _ | ⟨v, between⟩
  · rw [hr] at h
    cases h
  · rw [hr] at h
    exact ⟨v, between, rfl, h⟩

theorem claim_eq_ok {n : Nat} {u : Unit} (h : claim n source = .ok (u, left)) :
    left = { source with claimed := source.claimed + n } ∧
      source.claimed + n ≤ maxEncodedSize := by
  unfold claim at h
  split at h
  · rename_i hlimit
    cases h
    exact ⟨rfl, hlimit⟩
  · cases h

theorem takeBytes_eq_ok {n : Nat} {bytes : List UInt8}
    (h : takeBytes n source = .ok (bytes, left)) :
    bytes.length = n ∧ source.rest = bytes ++ left.rest ∧ left.claimed = source.claimed := by
  simp only [takeBytes] at h
  split at h
  · rename_i hlength
    cases h
    exact ⟨hlength, (List.take_append_drop n source.rest).symm, rfl⟩
  · cases h

/-- Bytes that were claimed and then taken are gone, and no others. -/
theorem takes_of_claim_takeBytes {n : Nat} {bytes : List UInt8}
    (h : (claim n >>= fun _ => takeBytes n) source = .ok (bytes, left)) :
    bytes.length = n ∧ source.Takes bytes left := by
  obtain ⟨_, between, hclaim, htake⟩ := bind_eq_ok h
  obtain ⟨rfl, hlimit⟩ := claim_eq_ok hclaim
  obtain ⟨hlength, hrest, hclaimed⟩ := takeBytes_eq_ok htake
  subst hlength
  exact ⟨rfl, hrest, hclaimed, fun _ => hclaimed ▸ hlimit⟩

end Steps

/-! ## Readers and writers -/

/-- **The reader takes nothing but what `put` writes:** a value that it gives stood in front of the
source in its written form. -/
def Canonical {α : Type} (r : Reader α) (put : α → List UInt8) : Prop :=
  ∀ ⦃source left : Source⦄ ⦃v : α⦄, r source = .ok (v, left) → source.Takes (put v) left

namespace Canonical

variable {α β : Type} {r : Reader α} {put : α → List UInt8}

/-- A reader that only puts the value into another form. -/
theorem map {f : α → β} {put' : β → List UInt8} (hr : Canonical r put)
    (hput : ∀ v, put' (f v) = put v) : Canonical (r >>= fun v => Pure.pure (f v)) put' := by
  intro source left w h
  obtain ⟨v, between, hread, hpure⟩ := bind_eq_ok h
  cases hpure
  rw [hput]
  exact hr hread

theorem word (width : Nat) : Canonical (readWord width) (bigEndian width) := by
  intro source left n h
  rw [readWord, ← bind_assoc] at h
  obtain ⟨bytes, between, hbytes, hpure⟩ := bind_eq_ok h
  cases hpure
  obtain ⟨rfl, htakes⟩ := takes_of_claim_takeBytes hbytes
  rwa [bigEndian_ofBigEndian]

theorem uint8 : Canonical readUInt8 putUInt8 := (word 1).map fun _ => rfl

theorem uint32 : Canonical readUInt32 putUInt32 := (word 4).map fun n => by
  rw [putUInt32, UInt32.toNat_ofNat']
  exact bigEndian_mod 4 n

theorem uint64 : Canonical readUInt64 putUInt64 := (word 8).map fun n => by
  rw [putUInt64, UInt64.toNat_ofNat']
  exact bigEndian_mod 8 n

theorem int64 : Canonical readInt64 putInt64 := uint64.map fun n => by
  rw [putInt64, UInt64.toUInt64_toInt64]

/-- The length that was read is the length of the bytes that were taken. -/
theorem byteString : Canonical readBytes putBytes := by
  intro source left bytes h
  obtain ⟨n, between, hlength, hbytes⟩ := bind_eq_ok h
  obtain ⟨rfl, htakes⟩ := takes_of_claim_takeBytes hbytes
  exact (word 8 hlength).append htakes

theorem text : Canonical readText putText := by
  intro source left s h
  obtain ⟨bytes, between, hbytes, hrest⟩ := bind_eq_ok h
  cases hutf8 : readUtf8 bytes with
  | error fault =>
    rw [hutf8] at hrest
    cases hrest
  | ok t =>
    rw [hutf8] at hrest
    cases hrest
    rw [putText, ← eq_utf8Bytes_of_readUtf8 hutf8]
    exact byteString hbytes

end Canonical

theorem readExact_eq_ok {α : Type} {form : Form} {r : Reader α} {bytes : List UInt8} {v : α}
    (h : readExact form r bytes = .ok v) :
    ∃ left : Source, r (.ofBytes bytes) = .ok (v, left) ∧ left.rest = [] := by
  unfold readExact Reader.readAll at h
  rcases hread : r (.ofBytes bytes) with _ | ⟨w, left⟩
  · simp [hread] at h
  · cases hend : left.rest.isEmpty with
    | false => simp [hread, hend] at h
    | true =>
      simp only [hread, hend, if_true, Except.ok.injEq] at h
      exact ⟨left, h ▸ rfl, List.isEmpty_iff.1 hend⟩

end BlockAccess.Wire

namespace BlockAccess.Identifier

open BlockAccess.Wire

/-- The fields that were read, together with the modes that the last byte stands for. -/
theorem takes_of_fieldsReader {source left : Source} {ofModes : AccessModes → Identifier}
    {modes : AccessModes} (h : fieldsReader source = .ok ((ofModes, modes.bits), left)) :
    source.Takes (ofModes modes).wireBytes left := by
  obtain ⟨expiry, s₁, hexpiry, h⟩ := bind_eq_ok h
  obtain ⟨keyId, s₂, hkeyId, h⟩ := bind_eq_ok h
  obtain ⟨owner, s₃, howner, h⟩ := bind_eq_ok h
  obtain ⟨pool, s₄, hpool, h⟩ := bind_eq_ok h
  obtain ⟨id, s₅, hid, h⟩ := bind_eq_ok h
  obtain ⟨bits, s₆, hbits, hpure⟩ := bind_eq_ok h
  cases hpure
  exact (((((Canonical.int64 hexpiry).append (Canonical.uint32 hkeyId)).append
    (Canonical.text howner)).append (Canonical.text hpool)).append
    (Canonical.int64 hid)).append (Canonical.uint8 hbits)

theorem encode_of_decode {x : Identifier} {bytes : List UInt8} (h : decode bytes = .ok x) :
    x.encode = .ok bytes := by
  unfold decode at h
  rcases hread : readExact .identifier fieldsReader bytes with _ | ⟨ofModes, bits⟩
  · simp [hread] at h
  cases hmodes : AccessModes.ofBits? bits with
  | none => simp [hread, hmodes] at h
  | some modes =>
    simp only [hread, hmodes, Except.ok.injEq] at h
    obtain rfl := AccessModes.ofBits?_eq_some_iff.1 hmodes
    obtain ⟨left, hfields, hend⟩ := readExact_eq_ok hread
    obtain ⟨hbytes, hlimit⟩ := (takes_of_fieldsReader hfields).whole hend
    rw [encode_eq_ok_iff, ← h]
    exact ⟨hlimit, hbytes⟩

/-- **An identifier is read from its own wire form and from nothing else.** -/
theorem decode_eq_ok_iff {x : Identifier} {bytes : List UInt8} :
    decode bytes = .ok x ↔ x.encode = .ok bytes :=
  ⟨encode_of_decode, decode_of_encode⟩

end BlockAccess.Identifier
