import BlockAccess.Manager.Access
import BlockAccess.Proofs.Wire.Canonical

/-!
# The verdict on a presented token

When is a token accepted, and what is it refused for? Both answers are given here in terms that do
not mention how a token is checked. `Token.Says` reads the token against the writer of identifiers,
`KeyWindow.Signs` looks for a signing key among all keys of the window, and `Refusal` lists the
conditions in the order in which they count, each refusal with everything that did hold before it.
The bytes of a token may be anything: since identifiers are read from their own wire form only, the
token says at most one thing, and it is the signed bytes that it says.

## Main results

* `Token.decodeIdentifier_eq_ok_iff` — a token is read as what it says.
* `Manager.checkAccess_eq_ok_iff` — a token is accepted if its claims hold and a key signs it.
* `Manager.refusal_of_checkAccess` — a refusal names the first condition that fails.
* `checkAccess_verdict` — both together, for all tokens and all windows.
-/

namespace BlockAccess

/-- **The token says `x`:** it is a block token, and it carries the wire form of `x`. -/
structure Token.Says (t : Token) (x : Identifier) : Prop where
  kind : t.kind = blockTokenKind
  form : x.encode = .ok t.identifier

/-- **The window signs a token** if a key in it, the current one, the next one or a retained one,
has not run out and gives the password of the token. -/
def KeyWindow.Signs (w : KeyWindow) (now : Instant) (t : Token) : Prop :=
  ∃ k ∈ w.keys, now ≤ k.expiry ∧ Digest.hmacSha256 k.secret t.identifier = t.password

/-- **What a token is refused for,** if it is to be refused. The conditions are tried in the order
of the cases: every case assumes that the conditions of those before it hold. -/
inductive Refusal (w : KeyWindow) (now : Instant) (t : Token) (owner? : Option String)
    (block : Block) (mode : AccessMode) : AccessError → Prop
  | malformed {flaw : Flaw} (hform : ∀ x, ¬ t.Says x) :
      Refusal w now t owner? block mode (.malformedToken flaw)
  | expired {x : Identifier} (hform : t.Says x) (htime : x.expiry < now) :
      Refusal w now t owner? block mode (.expired x.expiry now)
  | otherBlock {x : Identifier} (hform : t.Says x) (htime : now ≤ x.expiry)
      (hblock : x.block ≠ block) :
      Refusal w now t owner? block mode (.blockMismatch x.block block)
  | otherOwner {x : Identifier} {owner : String} (hform : t.Says x) (htime : now ≤ x.expiry)
      (hblock : x.block = block) (hexpected : owner? = some owner) (howner : owner ≠ x.owner) :
      Refusal w now t owner? block mode (.ownerMismatch owner)
  | otherMode {x : Identifier} (hform : t.Says x) (htime : now ≤ x.expiry)
      (hblock : x.block = block) (howner : ∀ owner, owner? = some owner → owner = x.owner)
      (hmode : x.modes.contains mode = false) :
      Refusal w now t owner? block mode (.accessDenied mode)
  | unsigned {x : Identifier} (hform : t.Says x) (htime : now ≤ x.expiry)
      (hblock : x.block = block) (howner : ∀ owner, owner? = some owner → owner = x.owner)
      (hmode : x.modes.contains mode = true) (hsigned : ¬ w.Signs now t) :
      Refusal w now t owner? block mode .invalidSignature

/-! ## What a token says -/

namespace Token

variable {t : Token} {x : Identifier}

theorem decodeIdentifier_eq_ok_iff : t.decodeIdentifier = .ok x ↔ t.Says x := by
  unfold decodeIdentifier isBlockToken
  split
  · rename_i hkind
    rw [Identifier.decode_eq_ok_iff]
    exact ⟨fun hform => ⟨of_decide_eq_true hkind, hform⟩, fun h => h.form⟩
  · rename_i hkind
    refine ⟨nofun, fun h => absurd ?_ hkind⟩
    exact decide_eq_true h.kind

theorem malformed_of_decodeIdentifier {e : AccessError} (h : t.decodeIdentifier = .error e) :
    ∃ flaw, e = .malformedToken flaw := by
  unfold decodeIdentifier Identifier.decode at h
  split at h
  · split at h
    · cases h
      exact ⟨_, rfl⟩
    · split at h
      · cases h
      · cases h
        exact ⟨_, rfl⟩
  · cases h
    exact ⟨_, rfl⟩

end Token

/-! ## What is made of it -/

section Verdict

variable {m : Manager} {now : Instant} {t : Token} {x : Identifier} {owner? : Option String}
  {block : Block} {mode : AccessMode}

theorem KeyWindow.signs_iff_candidate {w : KeyWindow} :
    w.Signs now t ↔ ∃ k ∈ w.candidates now, k.sign t.identifier = t.password := by
  simp only [Signs, mem_candidates, and_assoc, BlockKey.sign]

/-- Claims that do not hold are refused for the first of them. -/
theorem Identifier.refusal_of_checkClaims {w : KeyWindow} {e : AccessError}
    (hform : t.Says x) (h : x.checkClaims owner? block mode now = .error e) :
    Refusal w now t owner? block mode e := by
  unfold Identifier.checkClaims at h
  split at h
  · rename_i hexpired
    cases h
    exact .expired hform (Instant.isPast_iff.1 hexpired)
  rename_i hexpired
  have htime : now ≤ x.expiry := Instant.isPast_eq_false_iff.1 (Bool.eq_false_iff.2 hexpired)
  split at h
  · rename_i hblock
    cases h
    exact .otherBlock hform htime hblock
  rename_i hblock
  have hblock := not_not.1 hblock
  cases howner : owner?.filter (· ≠ x.owner) with
  | some owner =>
    rw [howner] at h
    cases h
    obtain ⟨hexpected, hother⟩ := Option.filter_eq_some_iff.1 howner
    exact .otherOwner hform htime hblock hexpected (by simpa using hother)
  | none =>
    rw [howner] at h
    have hsame : ∀ owner, owner? = some owner → owner = x.owner := by
      intro owner hexpected
      simpa using Option.filter_eq_none_iff.1 howner owner hexpected
    cases hmode : x.modes.contains mode with
    | true => simp [hmode] at h
    | false =>
      simp only [hmode, Bool.false_eq_true, if_false, Except.error.injEq] at h
      exact h ▸ .otherMode hform htime hblock hsame hmode

namespace Manager

/-- A token whose claims do not hold is refused for them. -/
theorem checkAccess_of_claims_error {e : AccessError} (hdecode : t.decodeIdentifier = .ok x)
    (hclaims : x.checkClaims owner? block mode now = .error e) :
    m.checkAccess now t owner? block mode = .error e := by
  simp only [checkAccess, hdecode, hclaims, bind, Except.bind]

/-- **A token is accepted as what it says,** if its claims hold and the window signs it. -/
theorem checkAccess_eq_ok_iff :
    m.checkAccess now t owner? block mode = .ok x ↔
      t.Says x ∧ x.checkClaims owner? block mode now = .ok () ∧ m.window.Signs now t := by
  constructor
  · intro h
    rcases hdecode : t.decodeIdentifier with e | y
    · simp [checkAccess, hdecode, bind, Except.bind] at h
    rcases hclaims : y.checkClaims owner? block mode now with e | _
    · rw [checkAccess_of_claims_error hdecode hclaims] at h
      cases h
    rw [checkAccess_of_claims hdecode hclaims] at h
    split at h
    · rename_i hsigned
      cases h
      exact ⟨Token.decodeIdentifier_eq_ok_iff.1 hdecode, hclaims,
        KeyWindow.signs_iff_candidate.2 hsigned⟩
    · cases h
  · rintro ⟨hform, hclaims, hsigned⟩
    rw [checkAccess_of_claims (Token.decodeIdentifier_eq_ok_iff.2 hform) hclaims,
      if_pos (KeyWindow.signs_iff_candidate.1 hsigned)]

/-- **A refusal names the first condition that fails.** -/
theorem refusal_of_checkAccess {e : AccessError}
    (h : m.checkAccess now t owner? block mode = .error e) :
    Refusal m.window now t owner? block mode e := by
  rcases hdecode : t.decodeIdentifier with flawed | x
  · obtain ⟨flaw, rfl⟩ := Token.malformed_of_decodeIdentifier hdecode
    simp only [checkAccess, hdecode, bind, Except.bind, Except.error.injEq] at h
    refine h ▸ .malformed fun x hform => ?_
    rw [Token.decodeIdentifier_eq_ok_iff.2 hform] at hdecode
    cases hdecode
  have hform := Token.decodeIdentifier_eq_ok_iff.1 hdecode
  rcases hclaims : x.checkClaims owner? block mode now with claimed | _
  · rw [checkAccess_of_claims_error hdecode hclaims] at h
    cases h
    exact Identifier.refusal_of_checkClaims hform hclaims
  rw [checkAccess_of_claims hdecode hclaims] at h
  split at h
  · cases h
  · rename_i hunsigned
    cases h
    obtain ⟨htime, hblock, howner, hmode⟩ := Identifier.checkClaims_eq_ok_iff.1 hclaims
    refine .unsigned hform htime hblock howner hmode fun hsigned => hunsigned ?_
    exact KeyWindow.signs_iff_candidate.1 hsigned

end Manager

end Verdict

/-- **The verdict on a token.** Every manager, in whatever state, accepts a token as `x` exactly if
it is a block token whose bytes are the wire form of `x`, it has not run out, it is for the block
that is asked for, it belongs to the expected owner if there is one, it grants the mode, and a key
of the window that has not run out gives its password. What it refuses it refuses for the first of
these conditions that fails. -/
theorem checkAccess_verdict (m : Manager) (now : Instant) (t : Token) (owner? : Option String)
    (block : Block) (mode : AccessMode) :
    (∀ x, m.checkAccess now t owner? block mode = .ok x ↔
      t.kind = "BLOCK_ACCESS_TOKEN" ∧ x.encode = .ok t.identifier ∧ now ≤ x.expiry ∧
        x.block.pool = block.pool ∧ x.block.id = block.id ∧
        (∀ owner, owner? = some owner → owner = x.owner) ∧ x.modes.contains mode = true ∧
        ∃ k ∈ m.window.current?.toList ++ m.window.next?.toList ++ m.window.retained,
          now ≤ k.expiry ∧ Digest.hmacSha256 k.secret t.identifier = t.password) ∧
    ∀ e, m.checkAccess now t owner? block mode = .error e →
      Refusal m.window now t owner? block mode e := by
  refine ⟨fun x => ?_, fun e h => Manager.refusal_of_checkAccess h⟩
  have hblock : x.block = block ↔ x.block.pool = block.pool ∧ x.block.id = block.id :=
    Block.ext_iff
  rw [Manager.checkAccess_eq_ok_iff, Identifier.checkClaims_eq_ok_iff, hblock]
  constructor
  · rintro ⟨⟨hkind, hform⟩, ⟨htime, ⟨hpool, hid⟩, howner, hmode⟩, hsigned⟩
    exact ⟨hkind, hform, htime, hpool, hid, howner, hmode, hsigned⟩
  · rintro ⟨hkind, hform, htime, hpool, hid, howner, hmode, hsigned⟩
    exact ⟨⟨hkind, hform⟩, ⟨htime, ⟨hpool, hid⟩, howner, hmode⟩, hsigned⟩

end BlockAccess
