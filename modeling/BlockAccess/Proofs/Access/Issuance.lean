import BlockAccess.Manager.Access
import BlockAccess.Proofs.Rotation.Invariant
import BlockAccess.Proofs.Wire.RoundTrip

/-!
# Minted tokens and the managers that accept them

A minted token carries an identifier and is signed with the current key. Whether a manager, the same
or another, accepts it later comes down to one question: is a key with the secret it was signed with
among the candidates of that manager? `Token.Carries` holds what has to be known of the token, and
`Manager.Accepts` is acceptance as its holder sees it: for the block of the token, presented by its
owner or by nobody in particular, in every mode that it grants.

A manager signs with its current key even when that key has run out, but does not verify with it
then. So it accepts what it has just minted as long as its current key is good, and in general not
longer.

## Main results

* `Token.Carries.accepts` — a token is accepted wherever a key with its secret is a candidate.
* `accepts_own_token` — what a manager makes of a token that it has just minted.
-/

namespace BlockAccess

/-- The token carries the identifier `x`, signed with the key `k`. -/
structure Token.Carries (t : Token) (x : Identifier) (k : BlockKey) : Prop where
  decode : t.decodeIdentifier = .ok x
  signed : k.sign t.identifier = t.password

/-- **The manager accepts a token** that says `x`: for the block it is for, with its owner or no
owner expected, and in every mode it grants. -/
def Manager.Accepts (m : Manager) (now : Instant) (t : Token) (x : Identifier) : Prop :=
  ∀ owner? : Option String, (owner? = none ∨ owner? = some x.owner) →
    ∀ mode : AccessMode, x.modes.contains mode = true →
      m.checkAccess now t owner? x.block mode = .ok x

/-- A token that is made of a wire form and its signature. -/
theorem Token.carries_ofSigned {x : Identifier} {bytes : List UInt8} (h : x.encode = .ok bytes)
    (k : BlockKey) : (Token.ofSigned bytes (k.sign bytes)).Carries x k := by
  refine ⟨?_, rfl⟩
  have hkind : (Token.ofSigned bytes (k.sign bytes)).isBlockToken = true := by
    simp [Token.isBlockToken, Token.ofSigned]
  rw [Token.decodeIdentifier, if_pos hkind]
  exact Identifier.decode_of_encode h

/-- A token that was minted carries what it was asked to carry. -/
theorem Manager.carries_of_mint {m : Manager} {now : Instant} {block : Block}
    {modes : AccessModes} {owner? : Option String} {t : Token}
    (h : m.mint now block modes owner? = .ok t) :
    ∃ k, m.window.current? = some k ∧ t.Carries (m.identifierFor now k block modes owner?) k := by
  obtain ⟨-, k, bytes, hcurrent, hbytes, rfl⟩ := mint_eq_ok_iff.1 h
  exact ⟨k, hcurrent, Token.carries_ofSigned hbytes k⟩

/-- What a master mints is signed with its current key. -/
theorem MasterWindow.carries_of_mint {s : Settings} {m : Manager} {current next : BlockKey}
    (h : MasterWindow s m current next) {now : Instant} {block : Block} {modes : AccessModes}
    {owner? : Option String} {t : Token} (hmint : m.mint now block modes owner? = .ok t) :
    t.Carries (m.identifierFor now current block modes owner?) current := by
  obtain ⟨k, hcurrent, hcarries⟩ := Manager.carries_of_mint hmint
  obtain rfl : current = k := Option.some.inj (h.current?.symm.trans hcurrent)
  exact hcarries

namespace Token.Carries

variable {t : Token} {x : Identifier} {k : BlockKey}

/-- Until its expiry an identifier claims what its holder claims. -/
theorem checkClaims {owner? : Option String} {mode : AccessMode} {now : Instant}
    (htime : now ≤ x.expiry) (howner : owner? = none ∨ owner? = some x.owner)
    (hmode : x.modes.contains mode = true) :
    x.checkClaims owner? x.block mode now = .ok () := by
  refine Identifier.checkClaims_eq_ok_iff.2 ⟨htime, rfl, ?_, hmode⟩
  intro owner hsome
  rcases howner with hnone | howner
  · simp [hnone] at hsome
  · simpa [howner, eq_comm] using hsome

/-- **A token is accepted until its expiry by every manager that has a candidate with the secret it
was signed with.** The id and the expiry of that candidate do not matter. -/
theorem accepts (h : t.Carries x k) {m : Manager} {now : Instant} {k' : BlockKey}
    (hmem : k' ∈ m.window.candidates now) (hsecret : k'.secret = k.secret)
    (htime : now ≤ x.expiry) : m.Accepts now t x := by
  intro owner? howner mode hmode
  have hsigned : k'.sign t.identifier = t.password := by
    rw [← h.signed, BlockKey.sign, BlockKey.sign, hsecret]
  rw [Manager.checkAccess_of_claims h.decode (checkClaims htime howner hmode),
    if_pos ⟨k', hmem, hsigned⟩]

/-- A token is refused for its signature where no candidate gives its password. -/
theorem refused (h : t.Carries x k) {m : Manager} {now : Instant}
    (hnone : ∀ k' ∈ m.window.candidates now, k'.sign t.identifier ≠ t.password)
    (htime : now ≤ x.expiry) {owner? : Option String}
    (howner : owner? = none ∨ owner? = some x.owner) {mode : AccessMode}
    (hmode : x.modes.contains mode = true) :
    m.checkAccess now t owner? x.block mode = .error .invalidSignature := by
  rw [Manager.checkAccess_of_claims h.decode (checkClaims htime howner hmode), if_neg]
  rintro ⟨k', hmem, hsigned⟩
  exact hnone k' hmem hsigned

end Token.Carries

/-! ## A manager and its own tokens -/

theorem KeyWindow.current_mem_candidates {w : KeyWindow} {k : BlockKey} {now : Instant}
    (hcurrent : w.current? = some k) (hgood : now ≤ k.expiry) : k ∈ w.candidates now :=
  mem_candidates.2 ⟨by simp [keys, hcurrent], hgood⟩

theorem mint_zeroKeyed (start now : Instant) (modes : AccessModes) :
    ∃ t, (Manager.zeroKeyed start).mint now ⟨"", 7⟩ modes none = .ok t := by
  refine ⟨_, Manager.mint_eq_ok_iff.2
    ⟨rfl, _, _, rfl, Identifier.encode_eq_ok_iff.2 ⟨?_, rfl⟩, rfl⟩⟩
  simp [Manager.identifierFor, Identifier.wireBytes, Manager.zeroKeyed, Wire.maxEncodedSize]

/-- **A manager accepts what it has just minted as long as its current key has not run out.** On a
master this is so for an interval and a lifetime at least, counted from when the key became current.
Once the key has run out, the token is refused for its signature, unless another candidate happens
to give the same password. -/
theorem accepts_own_token {m : Manager} {now : Instant} {block : Block} {modes : AccessModes}
    {owner? : Option String} {t : Token} (hmint : m.mint now block modes owner? = .ok t) :
    ∃ k x, m.window.current? = some k ∧ x = m.identifierFor now k block modes owner? ∧
      (now ≤ k.expiry → m.Accepts now t x) ∧
      (∀ clock s t₀, ReachedMaster clock s t₀ m →
        now ≤ m.window.currentExpiry m.window.currentSince → m.Accepts now t x) ∧
      (k.expiry < now →
        (∀ k' ∈ m.window.candidates now, k'.sign t.identifier ≠ t.password) →
        ∀ expected? : Option String, (expected? = none ∨ expected? = some x.owner) →
          ∀ mode : AccessMode, modes.contains mode = true →
            m.checkAccess now t expected? block mode = .error .invalidSignature) := by
  obtain ⟨k, hcurrent, hcarries⟩ := Manager.carries_of_mint hmint
  have htime : now ≤ now.after m.window.lifetime := now.le_after m.window.lifetime
  have haccepts (hgood : now ≤ k.expiry) :
      m.Accepts now t (m.identifierFor now k block modes owner?) :=
    hcarries.accepts (KeyWindow.current_mem_candidates hcurrent hgood) rfl htime
  refine ⟨k, _, hcurrent, rfl, haccepts, ?_, ?_⟩
  · intro clock s t₀ hreached hearly
    obtain ⟨current, next, h⟩ := hreached.masterWindow
    obtain rfl : current = k := Option.some.inj (h.current?.symm.trans hcurrent)
    exact haccepts (Instant.le_trans hearly h.current_expiry)
  · intro _ hnone expected? howner mode hmode
    exact hcarries.refused hnone htime howner hmode

/-- A master with its first keys. -/
theorem accepts_own_token_at_once :
    ∃ t x, (Manager.zeroKeyed ⟨0⟩).mint ⟨5⟩ ⟨"", 7⟩ .all none = .ok t ∧
      (Manager.zeroKeyed ⟨0⟩).Accepts ⟨5⟩ t x := by
  obtain ⟨t, hmint⟩ := mint_zeroKeyed ⟨0⟩ ⟨5⟩ .all
  obtain ⟨k, x, hcurrent, -, haccepts, -⟩ := accepts_own_token hmint
  cases hcurrent
  exact ⟨t, x, hmint, haccepts (by decide)⟩

/-- A master that was not asked to rotate for more than an interval and a lifetime still mints with
its first key, but no longer verifies with it. -/
theorem overdue_master_refuses_own_token :
    ∃ (m : Manager) (t : Token), ReachedMaster (· ≤ ·) .standard ⟨0⟩ m ∧
      m.mint ⟨1800001⟩ ⟨"", 7⟩ .all none = .ok t ∧
      m.checkAccess ⟨1800001⟩ t none ⟨"", 7⟩ .read = .error .invalidSignature := by
  obtain ⟨t, hmint⟩ := mint_zeroKeyed ⟨0⟩ ⟨1800001⟩ .all
  obtain ⟨k, hcurrent, hcarries⟩ := Manager.carries_of_mint hmint
  have hnone : (Manager.zeroKeyed ⟨0⟩).window.candidates ⟨1800001⟩ = [] := by decide
  have hgranted : AccessModes.all.contains .read = true := rfl
  refine ⟨.zeroKeyed ⟨0⟩, t, reachedMaster_zeroKeyed _ _, hmint, ?_⟩
  exact hcarries.refused (by simp [hnone]) (Instant.le_after _ _) (.inl rfl) hgranted

end BlockAccess
