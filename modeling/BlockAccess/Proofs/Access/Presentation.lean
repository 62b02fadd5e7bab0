import BlockAccess.Bridge
import BlockAccess.Proofs.Access.Issuance
import BlockAccess.Proofs.Wire.TextForm

/-!
# Minted tokens on their way

A token is of use to its holder if it can be written down: as bytes, as text, or as the credential
of a call. All three are made of the wire form of the token, which wraps the wire form of its
identifier and adds 82 bytes. Both forms have the same limit, and a manager that mints a token looks
at the inner one only. So there is a narrow band of owners and pools, from 65418 bytes to 65499 bytes
together, for which tokens are minted that cannot be written. Below the band every token can be
written in all three ways, and is read back from each of them.

## Main results

* `Token.length_wireBytes_ofSigned` — what the wrapper adds.
* `Manager.written_of_mint`, `Manager.unwritable_of_mint` — below the band and in it.
* `written_or_oversized` — which minted tokens can be presented.
* `mints_unwritable_token` — a token that was minted and cannot be.
-/

namespace BlockAccess

open Wire

namespace Token

/-- **The wrapper adds 82 bytes:** four lengths, the password and the kind. -/
theorem length_wireBytes_ofSigned (k : BlockKey) (bytes : List UInt8) :
    (ofSigned bytes (k.sign bytes)).wireBytes.length = bytes.length + 82 := by
  have hkind : blockTokenKind.utf8ByteSize = 18 := by decide
  have hservice : "".utf8ByteSize = 0 := by decide
  simp only [length_wireBytes, ofSigned, BlockKey.length_sign, hkind, hservice]
  omega

/-- **A token that is too long for its wire form has no other form either.** -/
theorem unwritable_of_lt {t : Token} (h : maxEncodedSize < t.wireBytes.length) :
    ∃ e, e = .malformedToken (.oversized t.wireBytes.length .token) ∧
      t.encode = .error e ∧ t.encodeUrl = .error e ∧ Credential.ofToken t = .error e := by
  have hform : t.encode = .error (.malformedToken (.oversized t.wireBytes.length .token)) := by
    rw [encode, bounded_of_lt h]
    rfl
  refine ⟨_, rfl, hform, ?_, ?_⟩
  · rw [encodeUrl, hform]
    rfl
  · rw [Credential.ofToken, hform]
    rfl

end Token

namespace Manager

variable {m : Manager} {now : Instant} {block : Block} {modes : AccessModes}
  {owner? : Option String}

/-- A token that was minted wraps an identifier with the owner and the pool that were asked for. -/
theorem length_wireBytes_of_mint {t : Token} (h : m.mint now block modes owner? = .ok t) :
    t.identifier.length = 37 + (owner?.getD "").utf8ByteSize + block.pool.utf8ByteSize ∧
      t.identifier.length ≤ maxEncodedSize ∧ t.wireBytes.length = t.identifier.length + 82 := by
  obtain ⟨-, k, bytes, -, hform, rfl⟩ := mint_eq_ok_iff.1 h
  obtain ⟨hlimit, rfl⟩ := Identifier.encode_eq_ok_iff.1 hform
  exact ⟨Identifier.length_wireBytes _, hlimit, Token.length_wireBytes_ofSigned k _⟩

/-- Only the identifier limits what is minted. -/
theorem mint_of_room {k : BlockKey} (hissue : m.mayIssue = true)
    (hcurrent : m.window.current? = some k)
    (hroom : (owner?.getD "").utf8ByteSize + block.pool.utf8ByteSize ≤ 65499) (now : Instant)
    (modes : AccessModes) : ∃ t, m.mint now block modes owner? = .ok t := by
  have hsize := (m.identifierFor now k block modes owner?).length_wireBytes
  simp only [identifierFor] at hsize
  refine ⟨_, mint_eq_ok_iff.2 ⟨hissue, k, _, hcurrent,
    Identifier.encode_eq_ok_iff.2 ⟨?_, rfl⟩, rfl⟩⟩
  simp only [identifierFor, hsize, maxEncodedSize]
  omega

/-- Below the band a minted token has all three forms, and is read back from each of them. -/
theorem written_of_mint {t : Token} (h : m.mint now block modes owner? = .ok t)
    (hshort : (owner?.getD "").utf8ByteSize + block.pool.utf8ByteSize ≤ 65417) :
    ∃ bytes text, t.encode = .ok bytes ∧ Token.decode bytes = .ok t ∧
      t.encodeUrl = .ok text ∧ Token.decodeUrl text = .ok t ∧
      Credential.ofToken t = .ok (.blockToken bytes) := by
  obtain ⟨hsize, -, hwrapped⟩ := length_wireBytes_of_mint h
  have hform : t.encode = .ok t.wireBytes :=
    Token.encode_eq_ok_iff.2 ⟨by simp only [maxEncodedSize]; omega, rfl⟩
  have htext := Token.encodeUrl_of_encode hform
  refine ⟨_, _, hform, Token.decode_eq_ok_iff.2 hform, htext, Token.decodeUrl_of_encodeUrl htext, ?_⟩
  rw [Credential.ofToken, hform]
  rfl

/-- In the band it has none of them, and is refused with the length that it would have. -/
theorem unwritable_of_mint {t : Token} (h : m.mint now block modes owner? = .ok t)
    (hlong : 65417 < (owner?.getD "").utf8ByteSize + block.pool.utf8ByteSize) :
    ∃ e, e = .malformedToken (.oversized
        (119 + (owner?.getD "").utf8ByteSize + block.pool.utf8ByteSize) .token) ∧
      t.encode = .error e ∧ t.encodeUrl = .error e ∧ Credential.ofToken t = .error e := by
  obtain ⟨hsize, -, hwrapped⟩ := length_wireBytes_of_mint h
  have htotal : t.wireBytes.length
      = 119 + (owner?.getD "").utf8ByteSize + block.pool.utf8ByteSize := by omega
  have hover : maxEncodedSize < t.wireBytes.length := by
    simp only [maxEncodedSize]
    omega
  rw [← htotal]
  exact Token.unwritable_of_lt hover

end Manager

/-! ## Owners of every size -/

/-- An owner of `n` letters. -/
def ownerOf (n : Nat) : String := String.ofList (List.replicate n 'x')

theorem utf8ByteSize_ownerOf (n : Nat) : (ownerOf n).utf8ByteSize = n := by
  have hcodes : ∀ b ∈ List.replicate n (120 : UInt8), b < 128 := by
    intro b hb
    rw [List.eq_of_mem_replicate hb]
    decide
  have hbytes := utf8Bytes_of_ascii hcodes
  rw [List.map_replicate] at hbytes
  have hlength := congrArg List.length hbytes
  rw [length_utf8Bytes, List.length_replicate] at hlength
  exact hlength

/-- A master with its first keys mints tokens for owners of every size up to the end of the band. -/
theorem mint_zeroKeyed_owned {n : Nat} (hn : n ≤ 65499) :
    ∃ owner t, owner.utf8ByteSize = n ∧
      ((some owner).getD "").utf8ByteSize + (⟨"", 7⟩ : Block).pool.utf8ByteSize = n ∧
      (Manager.zeroKeyed ⟨0⟩).mint ⟨0⟩ ⟨"", 7⟩ .all (some owner) = .ok t := by
  -- The owner is only known by its size, so that it is never spelt out.
  obtain ⟨owner, hsize⟩ : ∃ owner : String, owner.utf8ByteSize = n := ⟨_, utf8ByteSize_ownerOf n⟩
  have hpool : (⟨"", 7⟩ : Block).pool.utf8ByteSize = 0 := by decide
  have htotal : ((some owner).getD "").utf8ByteSize + (⟨"", 7⟩ : Block).pool.utf8ByteSize = n := by
    rw [Option.getD_some, hsize, hpool, Nat.add_zero]
  obtain ⟨t, hmint⟩ := Manager.mint_of_room (m := .zeroKeyed ⟨0⟩) rfl rfl
    (Nat.le_trans (Nat.le_of_eq htotal) hn) ⟨0⟩ .all
  exact ⟨owner, t, hsize, htotal, hmint⟩

/-! ## What can be presented -/

/-- **Which minted tokens can be presented.** Whatever manager mints a token, its owner and its pool
take 65499 bytes at most. If they take 65417 bytes at most, the token has a wire form, a text form
and a credential, and it is read back from each of them. If they take more, all three are refused,
with the length that the wire form would have. -/
theorem written_or_oversized {m : Manager} {now : Instant} {block : Block} {modes : AccessModes}
    {owner? : Option String} {t : Token} (hmint : m.mint now block modes owner? = .ok t) :
    (owner?.getD "").utf8ByteSize + block.pool.utf8ByteSize ≤ 65499 ∧
    ((owner?.getD "").utf8ByteSize + block.pool.utf8ByteSize ≤ 65417 →
      ∃ bytes text, t.encode = .ok bytes ∧ Token.decode bytes = .ok t ∧
        t.encodeUrl = .ok text ∧ Token.decodeUrl text = .ok t ∧
        Credential.ofToken t = .ok (.blockToken bytes)) ∧
    (65417 < (owner?.getD "").utf8ByteSize + block.pool.utf8ByteSize →
      ∃ e, e = .malformedToken (.oversized
          (119 + (owner?.getD "").utf8ByteSize + block.pool.utf8ByteSize) .token) ∧
        t.encode = .error e ∧ t.encodeUrl = .error e ∧ Credential.ofToken t = .error e) := by
  obtain ⟨hsize, hlimit, -⟩ := Manager.length_wireBytes_of_mint hmint
  simp only [maxEncodedSize] at hlimit
  exact ⟨by omega, Manager.written_of_mint hmint, Manager.unwritable_of_mint hmint⟩

/-- The longest owner for whom what is minted can be written. -/
theorem written_or_oversized_at_limit :
    ∃ owner t bytes text, owner.utf8ByteSize = 65417 ∧
      (Manager.zeroKeyed ⟨0⟩).mint ⟨0⟩ ⟨"", 7⟩ .all (some owner) = .ok t ∧
      t.encode = .ok bytes ∧ t.encodeUrl = .ok text ∧ Token.decodeUrl text = .ok t := by
  obtain ⟨owner, t, hsize, htotal, hmint⟩ := mint_zeroKeyed_owned (n := 65417) (by decide)
  obtain ⟨bytes, text, hform, -, htext, hread, -⟩ :=
    (written_or_oversized hmint).2.1 (Nat.le_of_eq htotal)
  exact ⟨owner, t, bytes, text, hsize, hmint, hform, htext, hread⟩

/-- The shortest owner for whom a master mints a token that cannot be written. -/
theorem mints_unwritable_token :
    ∃ (m : Manager) (owner : String) (t : Token) (e : AccessError),
      ReachedMaster (· ≤ ·) .standard ⟨0⟩ m ∧ owner.utf8ByteSize = 65418 ∧
      m.mint ⟨0⟩ ⟨"", 7⟩ .all (some owner) = .ok t ∧
      t.encode = .error e ∧ t.encodeUrl = .error e ∧ Credential.ofToken t = .error e := by
  obtain ⟨owner, t, hsize, htotal, hmint⟩ := mint_zeroKeyed_owned (n := 65418) (by decide)
  obtain ⟨e, -, hrefused⟩ := Manager.unwritable_of_mint hmint (Nat.le_of_eq htotal.symm)
  exact ⟨_, owner, t, e, reachedMaster_zeroKeyed _ _, hsize, hmint, hrefused⟩

end BlockAccess
