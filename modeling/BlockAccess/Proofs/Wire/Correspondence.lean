import BlockAccess.Proofs.Wire.Canonical
import BlockAccess.Token

/-!
# Values and their wire forms correspond

A token is read field by field like an identifier, so the two halves are there already: `Reads` says
that the reader gives back what was written, and `Canonical` that it takes nothing else. Where both
hold of a reader and a writer, the bytes from which a value is read are just its written form, if
that is not too long; the limit of the writer and the account of the reader meet at the same number.
This is said once for all forms, and then of tokens. The lengths of the forms are counted, so that
the limit can be told from the texts and the byte sequences of a value alone.

## Main results

* `readExact_eq_ok_iff` — reading is the inverse of bounded writing.
* `Token.decode_eq_ok_iff` — a token is read from its own wire form and nothing else.
* `wire_forms_correspond` — both formats in full: what is read, what is refused, and the limit.
-/

namespace BlockAccess

namespace Wire

/-- **Reading is the inverse of bounded writing** where the reader gives back what is written and
takes nothing else. -/
theorem readExact_eq_ok_iff {α : Type} {form : Form} {r : Reader α} {put : α → List UInt8}
    (hreads : ∀ v, Reads r (put v) v) (hcanonical : Canonical r put) {v : α}
    {bytes : List UInt8} :
    readExact form r bytes = .ok v ↔ bounded form (put v) = .ok bytes := by
  rw [bounded_eq_ok_iff]
  constructor
  · intro h
    obtain ⟨left, hread, hend⟩ := readExact_eq_ok h
    obtain ⟨hbytes, hlimit⟩ := (hcanonical hread).whole hend
    exact ⟨hlimit, hbytes⟩
  · rintro ⟨hlimit, rfl⟩
    exact readExact_of_reads form (hreads v) hlimit

/-- What is too long is refused with its length. -/
theorem bounded_of_lt {form : Form} {bytes : List UInt8} (h : maxEncodedSize < bytes.length) :
    bounded form bytes = .error (.oversized bytes.length form) :=
  if_neg (Nat.not_le.2 h)

/-- Another name for a flaw does not make a value. -/
theorem mapError_eq_ok_iff {ε ε' α : Type} {f : ε → ε'} {e : Except ε α} {a : α} :
    e.mapError f = .ok a ↔ e = .ok a := by
  cases e <;> simp [Except.mapError]

/-- A refusal is a flaw by its other name. -/
theorem exists_of_mapError_ne_ok {ε ε' α : Type} {f : ε → ε'} {e : Except ε α}
    (h : ∀ a, e.mapError f ≠ .ok a) : ∃ flaw, e.mapError f = .error (f flaw) := by
  cases e with
  | error flaw => exact ⟨flaw, rfl⟩
  | ok a => exact absurd rfl (h a)

end Wire

open Wire

/-! ## Identifiers -/

namespace Identifier

/-- The fields of fixed width take 37 bytes. -/
theorem length_wireBytes (x : Identifier) :
    x.wireBytes.length = 37 + x.owner.utf8ByteSize + x.block.pool.utf8ByteSize := by
  simp only [wireBytes, List.length_append, length_putInt64, length_putUInt32, length_putText,
    length_putUInt8]
  omega

/-- The bytes of an identifier are read, unless something is wrong with them. -/
theorem malformed_of_decode {bytes : List UInt8} (h : ∀ x, decode bytes ≠ .ok x) :
    ∃ flaw, decode bytes = .error (.malformedToken flaw) := by
  cases hdecode : decode bytes with
  | ok x => exact absurd hdecode (h x)
  | error e =>
    unfold decode at hdecode
    split at hdecode
    · cases hdecode
      exact ⟨_, rfl⟩
    · split at hdecode
      · cases hdecode
      · cases hdecode
        exact ⟨_, rfl⟩

end Identifier

/-! ## Tokens -/

namespace Token

variable {t : Token} {bytes : List UInt8}

/-- The four lengths take 32 bytes. -/
theorem length_wireBytes (t : Token) :
    t.wireBytes.length = 32 + t.identifier.length + t.password.length + t.kind.utf8ByteSize
      + t.service.utf8ByteSize := by
  simp only [wireBytes, List.length_append, length_putBytes, length_putText]
  omega

/-- The fields are read in the order in which they are written. -/
theorem reads_reader (t : Token) : Reads reader t.wireBytes t := by
  simp only [wireBytes, List.append_assoc]
  refine (Reads.byteString t.identifier).bind ?_
  refine (Reads.byteString t.password).bind ?_
  refine (Reads.text t.kind).bind ?_
  exact (Reads.text t.service).map rfl

/-- What the four fields were read from is the written form of the token. -/
theorem canonical_reader : Canonical reader wireBytes := by
  intro source left t h
  obtain ⟨identifier, s₁, hidentifier, h⟩ := bind_eq_ok h
  obtain ⟨password, s₂, hpassword, h⟩ := bind_eq_ok h
  obtain ⟨kind, s₃, hkind, h⟩ := bind_eq_ok h
  obtain ⟨service, s₄, hservice, hpure⟩ := bind_eq_ok h
  cases hpure
  exact (((Canonical.byteString hidentifier).append (Canonical.byteString hpassword)).append
    (Canonical.text hkind)).append (Canonical.text hservice)

/-- **A token is read from its own wire form and from nothing else.** -/
theorem decode_eq_ok_iff : decode bytes = .ok t ↔ t.encode = .ok bytes := by
  rw [decode, encode, mapError_eq_ok_iff, mapError_eq_ok_iff]
  exact readExact_eq_ok_iff reads_reader canonical_reader

theorem encode_eq_ok_iff :
    t.encode = .ok bytes ↔ t.wireBytes.length ≤ maxEncodedSize ∧ bytes = t.wireBytes := by
  rw [encode, mapError_eq_ok_iff, bounded_eq_ok_iff]

end Token

/-! ## Both formats -/

/-- **What is read is what was written.** Of identifiers and of tokens alike: a value is read from
its own form and from no other bytes, so that a value has one form and a form belongs to one value;
a value has a form exactly if that takes at most 65536 bytes; and bytes that are the form of no
value are refused as malformed. -/
theorem wire_forms_correspond :
    (∀ x bytes, Identifier.decode bytes = .ok x ↔ x.encode = .ok bytes) ∧
    (∀ t bytes, Token.decode bytes = .ok t ↔ t.encode = .ok bytes) ∧
    (∀ x bytes bytes', Identifier.decode bytes = .ok x → Identifier.decode bytes' = .ok x →
      bytes = bytes') ∧
    (∀ t bytes bytes', Token.decode bytes = .ok t → Token.decode bytes' = .ok t →
      bytes = bytes') ∧
    (∀ x : Identifier, (∃ bytes, x.encode = .ok bytes) ↔
      37 + x.owner.utf8ByteSize + x.block.pool.utf8ByteSize ≤ 65536) ∧
    (∀ t : Token, (∃ bytes, t.encode = .ok bytes) ↔
      32 + t.identifier.length + t.password.length + t.kind.utf8ByteSize
        + t.service.utf8ByteSize ≤ 65536) ∧
    (∀ bytes, (∀ x : Identifier, x.encode ≠ .ok bytes) →
      ∃ flaw, Identifier.decode bytes = .error (.malformedToken flaw)) ∧
    (∀ bytes, (∀ t : Token, t.encode ≠ .ok bytes) →
      ∃ flaw, Token.decode bytes = .error (.malformedToken flaw)) := by
  refine ⟨fun _ _ => Identifier.decode_eq_ok_iff, fun _ _ => Token.decode_eq_ok_iff, ?_, ?_, ?_,
    ?_, ?_, ?_⟩
  · intro x bytes bytes' h h'
    have hform := Identifier.decode_eq_ok_iff.1 h
    rw [Identifier.decode_eq_ok_iff.1 h'] at hform
    exact (Except.ok.inj hform).symm
  · intro t bytes bytes' h h'
    have hform := Token.decode_eq_ok_iff.1 h
    rw [Token.decode_eq_ok_iff.1 h'] at hform
    exact (Except.ok.inj hform).symm
  · intro x
    simp only [Identifier.encode_eq_ok_iff, exists_and_left, exists_eq, and_true,
      x.length_wireBytes, maxEncodedSize]
  · intro t
    simp only [Token.encode_eq_ok_iff, exists_and_left, exists_eq, and_true,
      t.length_wireBytes, maxEncodedSize]
  · intro bytes hnone
    exact Identifier.malformed_of_decode fun x h => hnone x (Identifier.decode_eq_ok_iff.1 h)
  · intro bytes hnone
    exact exists_of_mapError_ne_ok fun t h => hnone t (Token.decode_eq_ok_iff.1 h)

end BlockAccess
