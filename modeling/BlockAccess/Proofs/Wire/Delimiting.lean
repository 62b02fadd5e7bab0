import BlockAccess.Proofs.Wire.Correspondence
import BlockAccess.Proofs.Wire.ExportForm

/-!
# Where a written form ends

A written form needs no frame around it: it says itself where it ends. If it is cut short, wherever
that may be, its reader finds too few bytes, and if something follows, its reader leaves that alone
and counts it.

Both come from the way in which readers work, and no format has to be looked at for them. A reader
goes `Forward`: what it makes of its input depends on the bytes that it takes and on no others, and
it takes a field whole or stops there. The claims do not get in the way. They are made in the same
order on the cut form as on the whole one, and those that were granted before are granted again, so
a reader that could take in the whole never stops at the limit when it is given less. Steps that go
forward compose, and all readers are made of such steps.

## Main results

* `NeedsAll.bind`, `Forward.bind` — steps one after the other.
* `Forward.selfDelimiting` — the form of a value that is read forward delimits itself.
* `forms_delimit_themselves` — identifiers, tokens and exports, cut at any byte or followed by
  anything.
-/

namespace BlockAccess

namespace Wire

variable {α β : Type}

/-! ## Steps that go forward -/

/-- **The reader needs all of `bytes`** for the value `v`, and its account goes from `before` to
`after`. With anything behind them it leaves just that. If some of them are lost, it misses one byte
at least, and no more than were lost. -/
structure NeedsAll (r : Reader α) (bytes : List UInt8) (before : Nat) (v : α) (after : Nat) :
    Prop where
  whole : ∀ more, r ⟨bytes ++ more, before⟩ = .ok (v, ⟨more, after⟩)
  cut : ∀ part lost, part ++ lost = bytes → lost ≠ [] →
    ∃ missing, 0 < missing ∧ missing ≤ lost.length ∧
      r ⟨part, before⟩ = .error (.unexpectedEnd missing)

/-- **A reader that goes forward:** whenever it gives a value, it needed all bytes that it took. -/
def Forward (r : Reader α) : Prop :=
  ∀ ⦃source left : Source⦄ ⦃v : α⦄, r source = .ok (v, left) →
    ∃ bytes, source.rest = bytes ++ left.rest ∧
      NeedsAll r bytes source.claimed v left.claimed

/-- Where no byte is needed none can be lost. -/
theorem NeedsAll.nothing {r : Reader α} {before after : Nat} {v : α}
    (h : ∀ more, r ⟨more, before⟩ = .ok (v, ⟨more, after⟩)) : NeedsAll r [] before v after where
  whole := h
  cut := by
    intro part lost hparts hlost
    exact absurd (List.append_eq_nil_iff.1 hparts).2 hlost

/-- The cut falls into the first step, or between the steps, or into the second one. In the first
case the second step is never made; in the others the first one goes through. -/
theorem NeedsAll.bind {r : Reader α} {f : α → Reader β} {bytes bytes' : List UInt8}
    {before between after : Nat} {v : α} {w : β} (hr : NeedsAll r bytes before v between)
    (hf : NeedsAll (f v) bytes' between w after) :
    NeedsAll (r >>= f) (bytes ++ bytes') before w after where
  whole := by
    intro more
    show (r ⟨bytes ++ bytes' ++ more, before⟩ >>= fun p => f p.1 p.2) = _
    rw [List.append_assoc, hr.whole]
    exact hf.whole more
  cut := by
    intro part lost hparts hlost
    show ∃ missing, _ ∧ _ ∧ (r ⟨part, before⟩ >>= fun p => f p.1 p.2) = _
    rcases List.append_eq_append_iff.1 hparts with ⟨first, hbytes, hrest⟩ | ⟨second, hpart, hrest⟩
    · by_cases hfirst : first = []
      · rw [hfirst, List.append_nil] at hbytes
        rw [hfirst, List.nil_append] at hrest
        have hstart := hr.whole []
        rw [List.append_nil, hbytes] at hstart
        rw [hstart]
        exact hf.cut [] lost hrest hlost
      · obtain ⟨missing, hpos, hle, hstop⟩ := hr.cut part first hbytes.symm hfirst
        refine ⟨missing, hpos, ?_, ?_⟩
        · rw [hrest, List.length_append]
          omega
        · rw [hstop]
          rfl
    · rw [hpart, hr.whole]
      exact hf.cut second lost hrest.symm hlost

namespace Forward

theorem pure (v : α) : Forward (Pure.pure v) := by
  intro source left w h
  cases h
  exact ⟨[], rfl, .nothing fun _ => rfl⟩

/-- A step that is never made goes forward. -/
theorem throw (fault : Fault) : Forward (throw fault : Reader α) := by
  intro source left v h
  cases h

theorem bind {r : Reader α} {f : α → Reader β} (hr : Forward r) (hf : ∀ v, Forward (f v)) :
    Forward (r >>= f) := by
  intro source left w h
  obtain ⟨v, between, hfirst, hsecond⟩ := bind_eq_ok h
  obtain ⟨bytes, hbytes, hneeds⟩ := hr hfirst
  obtain ⟨bytes', hbytes', hneeds'⟩ := hf v hsecond
  refine ⟨bytes ++ bytes', ?_, hneeds.bind hneeds'⟩
  rw [hbytes, hbytes', List.append_assoc]

/-- A reader that only puts the value into another form. -/
theorem map {r : Reader α} (hr : Forward r) (f : α → β) :
    Forward (r >>= fun v => Pure.pure (f v)) := hr.bind fun v => pure (f v)

/-- A claim takes no byte, and what was granted once is granted again. -/
theorem claim (n : Nat) : Forward (claim n) := by
  intro source left u h
  obtain ⟨rfl, hlimit⟩ := claim_eq_ok h
  exact ⟨[], rfl, .nothing fun _ => if_pos hlimit⟩

theorem release (n : Nat) : Forward (release n) := by
  intro source left u h
  cases h
  exact ⟨[], rfl, .nothing fun _ => rfl⟩

/-- What is missing of a field is what was lost of it. -/
theorem takeBytes (n : Nat) : Forward (takeBytes n) := by
  intro source left bytes h
  obtain ⟨rfl, hrest, hclaimed⟩ := takeBytes_eq_ok h
  refine ⟨bytes, hrest, ?_, ?_⟩
  · intro more
    simp only [Wire.takeBytes, List.take_left, List.drop_left, if_true, hclaimed]
  · rintro part lost rfl hlost
    have hpos := List.length_pos_iff.2 hlost
    have hall : part.take (part ++ lost).length = part := by
      apply List.take_of_length_le
      rw [List.length_append]
      omega
    refine ⟨lost.length, hpos, Nat.le_refl _, ?_⟩
    simp only [Wire.takeBytes, hall]
    rw [List.length_append, if_neg (by omega), Nat.add_sub_cancel_left]

theorem word (width : Nat) : Forward (readWord width) :=
  (claim width).bind fun _ => (takeBytes width).map ofBigEndian

theorem uint8 : Forward readUInt8 := (word 1).map UInt8.ofNat

theorem uint32 : Forward readUInt32 := (word 4).map UInt32.ofNat

theorem uint64 : Forward readUInt64 := (word 8).map UInt64.ofNat

theorem int64 : Forward readInt64 := uint64.map UInt64.toInt64

theorem byteString : Forward readBytes :=
  (word 8).bind fun length => (claim length).bind fun _ => takeBytes length

/-- Whether the bytes are a text is asked when all of them are there. -/
theorem text : Forward readText := by
  apply byteString.bind
  intro bytes
  cases readUtf8 bytes with
  | ok s => exact pure s
  | error fault => exact throw (.notText fault)

theorem records {room : Nat} {record : Reader α} (hrecord : Forward record) (n : Nat) :
    Forward (readRecords room record n) := by
  induction n with
  | zero => exact pure []
  | succ n ih =>
    apply (release room).bind
    intro _
    apply hrecord.bind
    intro first
    exact ih.map (first :: ·)

theorem sequence {room : Nat} {record : Reader α} (hrecord : Forward record) :
    Forward (readSequence room record) :=
  (word 8).bind fun count => (claim (count * room)).bind fun _ => hrecord.records count

end Forward

/-! ## Whole forms -/

/-- **A form delimits itself.** Of bytes that are read as a value, no proper part from the beginning
is read: it ends too early, by some bytes, but by no more than were lost. And with anything behind
them they are not read either: what follows is counted. -/
structure SelfDelimiting {ε : Type} (read : List UInt8 → Except ε α) (refusal : Flaw → ε)
    (form : Form) : Prop where
  cut : ∀ {part lost : List UInt8} {v : α}, read (part ++ lost) = .ok v → lost ≠ [] →
    ∃ missing, 0 < missing ∧ missing ≤ lost.length ∧
      read part = .error (refusal (.unreadable (.unexpectedEnd missing)))
  trailing : ∀ {bytes more : List UInt8} {v : α}, read bytes = .ok v → more ≠ [] →
    read (bytes ++ more) = .error (refusal (.trailing more.length form))

/-- **What is read forward delimits itself.** -/
theorem Forward.selfDelimiting {r : Reader α} (hr : Forward r) (form : Form) :
    SelfDelimiting (readExact form r) id form where
  cut := by
    intro part lost v h hlost
    obtain ⟨left, hread, hend⟩ := readExact_eq_ok h
    obtain ⟨bytes, hbytes, hneeds⟩ := hr hread
    have hall : part ++ lost = bytes := by rw [← List.append_nil bytes, ← hend, ← hbytes]; rfl
    obtain ⟨missing, hpos, hle, hstop⟩ := hneeds.cut part lost hall hlost
    refine ⟨missing, hpos, hle, ?_⟩
    have hpart : r (.ofBytes part) = .error (.unexpectedEnd missing) := hstop
    simp only [readExact, Reader.readAll, hpart, id]
  trailing := by
    intro bytes more v h hmore
    obtain ⟨left, hread, hend⟩ := readExact_eq_ok h
    obtain ⟨taken, htaken, hneeds⟩ := hr hread
    have hall : taken = bytes := by rw [← List.append_nil taken, ← hend, ← htaken]; rfl
    have hlonger : r (.ofBytes (bytes ++ more)) = .ok (v, ⟨more, left.claimed⟩) :=
      hall ▸ hneeds.whole more
    have hrest : more.isEmpty = false := List.isEmpty_eq_false_iff.2 hmore
    simp only [readExact, Reader.readAll, hlonger, hrest, Bool.false_eq_true, if_false, id]

/-- A flaw under another name is the same flaw. -/
theorem SelfDelimiting.mapError {ε ε' : Type} {read : List UInt8 → Except ε α}
    {refusal : Flaw → ε} {form : Form} (h : SelfDelimiting read refusal form) (f : ε → ε') :
    SelfDelimiting (fun bytes => (read bytes).mapError f) (fun flaw => f (refusal flaw)) form where
  cut := by
    intro part lost v hread hlost
    obtain ⟨missing, hpos, hle, hstop⟩ := h.cut (mapError_eq_ok_iff.1 hread) hlost
    refine ⟨missing, hpos, hle, ?_⟩
    rw [hstop]
    rfl
  trailing := by
    intro bytes more v hread hmore
    rw [h.trailing (mapError_eq_ok_iff.1 hread) hmore]
    rfl

end Wire

open Wire

/-! ## The three formats -/

namespace Identifier

theorem forward_fieldsReader : Forward fieldsReader :=
  Forward.int64.bind fun _ => Forward.uint32.bind fun _ => Forward.text.bind fun _ =>
    Forward.text.bind fun _ => Forward.int64.bind fun _ => Forward.uint8.map _

/-- The modes are looked at when all fields have been read, and nothing follows them. -/
theorem selfDelimiting_decode : SelfDelimiting decode .malformedToken .identifier where
  cut := by
    intro part lost x h hlost
    have hfields := forward_fieldsReader.selfDelimiting .identifier
    cases hread : readExact .identifier fieldsReader (part ++ lost) with
    | error flaw => simp [decode, hread] at h
    | ok fields =>
      obtain ⟨missing, hpos, hle, hstop⟩ := hfields.cut hread hlost
      refine ⟨missing, hpos, hle, ?_⟩
      rw [decode, hstop]
      rfl
  trailing := by
    intro bytes more x h hmore
    have hfields := forward_fieldsReader.selfDelimiting .identifier
    cases hread : readExact .identifier fieldsReader bytes with
    | error flaw => simp [decode, hread] at h
    | ok fields =>
      rw [decode, hfields.trailing hread hmore]
      rfl

end Identifier

theorem Token.forward_reader : Forward Token.reader :=
  Forward.byteString.bind fun _ => Forward.byteString.bind fun _ => Forward.text.bind fun _ =>
    Forward.text.map _

theorem BlockKey.forward_reader : Forward BlockKey.reader :=
  Forward.uint32.bind fun _ => Forward.int64.bind fun _ => Forward.byteString.map _

theorem KeyExport.forward_reader : Forward KeyExport.reader :=
  Forward.uint64.bind fun _ => Forward.uint64.bind fun _ => BlockKey.forward_reader.bind fun _ =>
    BlockKey.forward_reader.sequence.map _

/-- **Every written form delimits itself,** that of an identifier, of a token and of an export. If
bytes are read as a value, then each proper part of them from the beginning is refused because it
ends too early, wherever the cut may fall; and the same bytes with anything behind them are refused
with the number of the bytes that follow. So no form is the beginning of another. -/
theorem forms_delimit_themselves :
    SelfDelimiting Identifier.decode .malformedToken .identifier ∧
    SelfDelimiting Token.decode .malformedToken .token ∧
    SelfDelimiting KeyExport.decode .malformedKeys .keys := by
  refine ⟨Identifier.selfDelimiting_decode, ?_, ?_⟩
  · exact (Token.forward_reader.selfDelimiting .token).mapError AccessError.malformedToken
  · exact (KeyExport.forward_reader.selfDelimiting .keys).mapError AccessError.malformedKeys

/-- An export is cut within the length of the last secret, and it is followed by its own first
byte. -/
theorem forms_delimit_themselves_within_key :
    ∃ e : KeyExport, e.keyIds = [1, 2] ∧ KeyExport.decode e.encode = .ok e ∧
      e.encode.drop 61 = [0, 0, 2, 8, 9] ∧
      (∃ missing, 0 < missing ∧ missing ≤ 5 ∧ KeyExport.decode (e.encode.take 61)
        = .error (.malformedKeys (.unreadable (.unexpectedEnd missing)))) ∧
      KeyExport.decode (e.encode ++ [0]) = .error (.malformedKeys (.trailing 1 .keys)) := by
  let e : KeyExport := ⟨1, 1, ⟨1, ⟨0⟩, []⟩, [⟨2, ⟨0⟩, [8, 9]⟩]⟩
  have hread : KeyExport.decode e.encode = .ok e := by
    rw [KeyExport.decode_encode (by decide) (by decide), if_pos (by decide)]
  have hparts : KeyExport.decode (e.encode.take 61 ++ e.encode.drop 61) = .ok e := by
    rwa [List.take_append_drop]
  have hlost : e.encode.drop 61 = [0, 0, 2, 8, 9] := by decide
  obtain ⟨-, -, hkeys⟩ := forms_delimit_themselves
  rw [hlost] at hparts
  exact ⟨e, rfl, hread, hlost, hkeys.cut hparts nofun, hkeys.trailing hread nofun⟩

end BlockAccess
