import BlockAccess.Proofs.Access.Presentation
import BlockAccess.Proofs.Deployment.Pools

/-!
# The bridge and the verifier behind it

The bridge adds to the check of tokens that it reads the token from the credential of a call, and
that it keeps everybody out who is refused. It adds nothing else: what it lets through is what the
manager or the registry behind it accepts for the caller, the block and the mode of the call.

A call can be turned away in three places, and `Denial` lists them: the credential is of another
kind, its bytes are no token, or the token is refused. A refusal is in turn that of a manager, whose
reasons are listed by `Refusal`, or that of a registry which does not know the pool. Each of these
reasons counts as a rejection of the credential; none is a failure of the machinery.

To see how often a handler is run, `recorded` has it keep a list of the calls that it was given.

## Main results

* `InboundCall.authorize_eq_ok_iff` — which calls are authorised.
* `InboundCall.denial_of_authorize` — what other calls are turned away for.
* `Deployment.isRejection_of_authorize` — all of that is rejection.
* `bridge_answers_as_verifier` — the bridge with a manager or a registry behind it.
-/

namespace BlockAccess

open Deployment

/-- Bytes are read as a token, unless something is wrong with them. -/
theorem Token.malformed_of_decode {bytes : List UInt8} {e : AccessError}
    (h : decode bytes = .error e) : ∃ flaw, e = .malformedToken flaw := by
  unfold decode at h
  cases hread : Wire.readExact .token reader bytes with
  | error flaw =>
    rw [hread] at h
    cases h
    exact ⟨flaw, rfl⟩
  | ok t =>
    rw [hread] at h
    cases h

/-! ## The bridge on its own -/

namespace InboundCall

variable {check : Check} {call : InboundCall} {e : AccessError}

/-- **What a call is turned away for.** -/
inductive Denial (check : Check) (call : InboundCall) : AccessError → Prop
  | otherKind {kind : String} {bytes : List UInt8}
      (hcredential : call.credential = .other kind bytes) :
      Denial check call (.unsupportedCredential kind)
  | unreadable {bytes : List UInt8} {flaw : Flaw}
      (hcredential : call.credential = .blockToken bytes)
      (hdecode : Token.decode bytes = .error (.malformedToken flaw)) :
      Denial check call (.malformedToken flaw)
  | refused {bytes : List UInt8} {t : Token} {e : AccessError}
      (hcredential : call.credential = .blockToken bytes) (hdecode : Token.decode bytes = .ok t)
      (hcheck : check t call.caller? call.block call.mode = .error e) : Denial check call e

/-- Where the credential can be read, the check of the token decides. -/
theorem authorize_of_decode {bytes : List UInt8} {t : Token}
    (hcredential : call.credential = .blockToken bytes) (hdecode : Token.decode bytes = .ok t) :
    call.authorize check
      = (check t call.caller? call.block call.mode).map fun x => ⟨x, x.block.id⟩ := by
  simp only [authorize, hcredential, hdecode, bind, Except.bind]
  cases check t call.caller? call.block call.mode <;> rfl

/-- The credential that shows a token is judged as the token. -/
theorem authorize_of_ofToken {t : Token} (h : Credential.ofToken t = .ok call.credential) :
    call.authorize check
      = (check t call.caller? call.block call.mode).map fun x => ⟨x, x.block.id⟩ := by
  rw [Credential.ofToken] at h
  cases hform : t.encode with
  | error e =>
    rw [hform] at h
    cases h
  | ok bytes =>
    rw [hform] at h
    exact authorize_of_decode (Except.ok.inj h).symm (Token.decode_eq_ok_iff.2 hform)

/-- **How far a call comes:** its credential is of another kind, or is no token, or is a token, and
then the check decides. -/
theorem authorize_cases (check : Check) (call : InboundCall) :
    (∃ kind bytes, call.credential = .other kind bytes ∧
      call.authorize check = .error (.unsupportedCredential kind)) ∨
    (∃ bytes flaw, call.credential = .blockToken bytes ∧
      Token.decode bytes = .error (.malformedToken flaw) ∧
      call.authorize check = .error (.malformedToken flaw)) ∨
    ∃ bytes t, call.credential = .blockToken bytes ∧ Token.decode bytes = .ok t ∧
      call.authorize check
        = (check t call.caller? call.block call.mode).map fun x => ⟨x, x.block.id⟩ := by
  cases hcredential : call.credential with
  | other kind bytes =>
    refine .inl ⟨kind, bytes, rfl, ?_⟩
    simp only [authorize, hcredential]
    rfl
  | blockToken bytes =>
    cases hdecode : Token.decode bytes with
    | error e =>
      obtain ⟨flaw, rfl⟩ := Token.malformed_of_decode hdecode
      refine .inr (.inl ⟨bytes, flaw, rfl, hdecode, ?_⟩)
      simp only [authorize, hcredential, hdecode, bind, Except.bind]
    | ok t => exact .inr (.inr ⟨bytes, t, rfl, hdecode, authorize_of_decode hcredential hdecode⟩)

/-- **Which calls are authorised:** those whose credential is read as a token that the check
accepts. -/
theorem authorize_eq_ok_iff {granted : AuthorizedCall} :
    call.authorize check = .ok granted ↔
      granted.blockId = granted.identifier.block.id ∧
        ∃ bytes t, call.credential = .blockToken bytes ∧ Token.decode bytes = .ok t ∧
          check t call.caller? call.block call.mode = .ok granted.identifier := by
  constructor
  · intro h
    obtain ⟨kind, bytes, -, hturned⟩ | ⟨bytes, flaw, -, -, hturned⟩ |
      ⟨bytes, t, hcredential, hdecode, hjudged⟩ := authorize_cases check call
    · rw [hturned] at h
      cases h
    · rw [hturned] at h
      cases h
    · rw [hjudged] at h
      cases hcheck : check t call.caller? call.block call.mode with
      | error e =>
        rw [hcheck] at h
        cases h
      | ok x =>
        rw [hcheck] at h
        cases h
        exact ⟨rfl, bytes, t, hcredential, hdecode, hcheck⟩
  · rintro ⟨hblock, bytes, t, hcredential, hdecode, hcheck⟩
    rw [authorize_of_decode hcredential hdecode, hcheck]
    show Except.ok (AuthorizedCall.mk granted.identifier granted.identifier.block.id) = _
    rw [← hblock]

/-- **What all other calls are turned away for.** -/
theorem denial_of_authorize (h : call.authorize check = .error e) : Denial check call e := by
  obtain ⟨kind, bytes, hcredential, hturned⟩ | ⟨bytes, flaw, hcredential, hdecode, hturned⟩ |
    ⟨bytes, t, hcredential, hdecode, hjudged⟩ := authorize_cases check call
  · rw [hturned] at h
    cases h
    exact .otherKind hcredential
  · rw [hturned] at h
    cases h
    exact .unreadable hcredential hdecode
  · rw [hjudged] at h
    cases hcheck : check t call.caller? call.block call.mode with
    | error e' =>
      rw [hcheck] at h
      cases h
      exact .refused hcredential hdecode hcheck
    | ok x =>
      rw [hcheck] at h
      cases h

/-- What is turned away is rejected, if that holds of what the check refuses. -/
theorem Denial.isRejection (h : Denial check call e)
    (hcheck : ∀ t owner? block mode e, check t owner? block mode = .error e →
      e.isRejection = true) :
    e.isRejection = true := by
  cases h with
  | otherKind => rfl
  | unreadable => rfl
  | refused _ _ hrefused => exact hcheck _ _ _ _ e hrefused

/-! ## Handlers -/

/-- A handler that adds the call to a list each time that it is run. -/
def recorded {σ β : Type} (handler : AuthorizedCall → StateT Deployment (StateM σ) β)
    (granted : AuthorizedCall) : StateT Deployment (StateM (σ × List AuthorizedCall)) β :=
  fun d (s, runs) =>
    let (answer, s') := ((handler granted).run d).run s
    (answer, s', runs ++ [granted])

end InboundCall

/-! ## A manager or a registry behind it -/

namespace Deployment

variable {d : Deployment} {a : Authority} {t : Token} {owner? : Option String} {block : Block}
  {mode : AccessMode} {call : InboundCall} {e : AccessError}

/-- A refusal is that of a registry without the pool, or that of the manager in charge. -/
theorem refusal_of_checkAccess (h : d.checkAccess a t owner? block mode = .error e) :
    d.inCharge a block.pool = .error e ∧ e = .unknownPool block.pool ∨
      ∃ r, d.inCharge a block.pool = .ok r ∧
        Refusal (d.manager r).window (d.now r) t owner? block mode e := by
  unfold checkAccess at h
  cases hcharge : d.inCharge a block.pool with
  | error unknown =>
    rw [hcharge] at h
    cases h
    refine .inl ⟨rfl, ?_⟩
    cases a with
    | manager r => cases hcharge
    | registry r =>
      rw [inCharge, Registry.find] at hcharge
      split at hcharge
      · cases hcharge
      · cases hcharge
        rfl
  | ok r =>
    rw [hcharge] at h
    exact .inr ⟨r, rfl, Manager.refusal_of_checkAccess h⟩

end Deployment

/-- Every reason to refuse a token is a rejection. -/
theorem Refusal.isRejection {w : KeyWindow} {now : Instant} {t : Token} {owner? : Option String}
    {block : Block} {mode : AccessMode} {e : AccessError}
    (h : Refusal w now t owner? block mode e) : e.isRejection = true := by
  cases h <;> rfl

namespace Deployment

variable {d : Deployment} {a : Authority} {call : InboundCall} {e : AccessError}

theorem run_authorize (a : Authority) (call : InboundCall) (d : Deployment) :
    (authorize a call).run d = (call.authorize (d.checkAccess a),
      { d with log := d.log ++ (call.events (call.authorize (d.checkAccess a))).toArray }) := rfl

/-- **Whatever a call is turned away for is a rejection of its credential.** -/
theorem isRejection_of_authorize (h : call.authorize (d.checkAccess a) = .error e) :
    e.isRejection = true := by
  apply (InboundCall.denial_of_authorize h).isRejection
  intro t owner? block mode e' hrefused
  rcases refusal_of_checkAccess hrefused with ⟨-, rfl⟩ | ⟨r, -, hrefusal⟩
  · rfl
  · exact hrefusal.isRejection

end Deployment

/-- **The bridge answers as the verifier behind it,** whether that is a manager or a registry, in
any state and at any time:

* a call is authorised exactly if its credential is read as a token that is accepted for its caller,
  its block and its mode, and then for what the token says;
* so what is authorised is for the block of the call and grants its mode, has not run out by the
  clock of the manager in charge, and belongs to the caller if there is one;
* the credential that shows a token is accepted or refused as the token itself;
* every refusal is a rejection of the credential;
* a handler is run once, with the authorised call, or is not run at all. -/
theorem bridge_answers_as_verifier (d : Deployment) (a : Authority) (call : InboundCall) :
    (∀ granted, ((authorize a call).run d).1 = .ok granted ↔
      granted.blockId = granted.identifier.block.id ∧
        ∃ bytes t, call.credential = .blockToken bytes ∧ Token.decode bytes = .ok t ∧
          d.checkAccess a t call.caller? call.block call.mode = .ok granted.identifier) ∧
    (∀ granted, ((authorize a call).run d).1 = .ok granted →
      granted.blockId = call.block.id ∧ granted.identifier.block = call.block ∧
        granted.identifier.modes.contains call.mode = true ∧
        (∃ r, d.inCharge a call.block.pool = .ok r ∧ d.now r ≤ granted.identifier.expiry) ∧
        ∀ caller, call.caller? = some caller → granted.identifier.owner = caller) ∧
    (∀ t, Credential.ofToken t = .ok call.credential →
      ((authorize a call).run d).1
        = (d.checkAccess a t call.caller? call.block call.mode).map fun x => ⟨x, x.block.id⟩) ∧
    (∀ e, ((authorize a call).run d).1 = .error e → e.isRejection = true) ∧
    ∀ (σ β : Type) (handler : AuthorizedCall → StateT Deployment (StateM σ) β) (s : σ),
      ((dispatch a call (InboundCall.recorded handler)).run d).run (s, [])
        = match (authorize a call).run d with
          | (.ok granted, d') =>
            let ((answer, d''), s') := ((handler granted).run d').run s
            ((.ok answer, d''), s', [granted])
          | (.error e, d') => ((.error e, d'), s, []) := by
  rw [run_authorize]
  refine ⟨fun granted => InboundCall.authorize_eq_ok_iff, ?_,
    fun t => InboundCall.authorize_of_ofToken, fun e => isRejection_of_authorize, ?_⟩
  · intro granted h
    obtain ⟨hnumber, bytes, t, -, -, hchecked⟩ := InboundCall.authorize_eq_ok_iff.1 h
    obtain ⟨r, hcharge, haccepted⟩ := checkAccess_eq_ok_iff.1 hchecked
    obtain ⟨-, hclaims, -⟩ := Manager.checkAccess_eq_ok_iff.1 haccepted
    obtain ⟨htime, hblock, howner, hmode⟩ := Identifier.checkClaims_eq_ok_iff.1 hclaims
    refine ⟨hblock ▸ hnumber, hblock, hmode, ⟨r, hcharge, htime⟩, ?_⟩
    intro caller hcaller
    exact (howner caller hcaller).symm
  · intro σ β handler s
    show (InboundCall.dispatch ((authorize a call).run d).1 (InboundCall.recorded handler)
      ((authorize a call).run d).2) (s, []) = _
    rw [run_authorize]
    cases call.authorize (d.checkAccess a) with
    | ok granted => rfl
    | error e => rfl

/-- A handler that counts how often it is run. -/
def AuthorizedCall.count (granted : AuthorizedCall) : StateT Deployment (StateM Nat) Int64 :=
  fun d runs => ((granted.blockId, d), runs + 1)

/-- A call with a token for a block of one pool, and the same call for the block of that number in
the other. The first is authorised, the second is rejected, and the handler is run for the first
only. -/
theorem bridge_answers_as_verifier_sharing :
    ∃ (bytes : List UInt8) (granted : AuthorizedCall) (e : AccessError) (d₁ d₂ : Deployment),
      Credential.ofToken .shared = .ok (.blockToken bytes) ∧
      (authorize (.registry ⟨0⟩) ⟨.blockToken bytes, none, ⟨"left", 7⟩, .read⟩).run .sharing
        = (.ok granted, d₁) ∧ granted.blockId = 7 ∧
      ((dispatch (.registry ⟨0⟩) ⟨.blockToken bytes, none, ⟨"left", 7⟩, .read⟩
        (InboundCall.recorded AuthorizedCall.count)).run .sharing).run (0, [])
        = ((.ok granted.blockId, d₁), 1, [granted]) ∧
      (authorize (.registry ⟨0⟩) ⟨.blockToken bytes, none, ⟨"right", 7⟩, .read⟩).run .sharing
        = (.error e, d₂) ∧ e.isRejection = true ∧
      ((dispatch (.registry ⟨0⟩) ⟨.blockToken bytes, none, ⟨"right", 7⟩, .read⟩
        (InboundCall.recorded AuthorizedCall.count)).run .sharing).run (0, [])
        = ((.error e, d₂), 0, []) := by
  obtain ⟨bytes, -, -, -, -, -, hshown⟩ := Manager.written_of_mint mint_shared (by decide)
  have haccepted : Deployment.sharing.checkAccess (.registry ⟨0⟩) .shared none ⟨"left", 7⟩ .read
      = .ok .shared :=
    checkAccess_eq_ok_iff.2 ⟨⟨0⟩, rfl,
      carries_shared.accepts shared_mem_candidates.1 rfl (by decide) none (.inl rfl) .read rfl⟩
  have hrefused : Deployment.sharing.checkAccess (.registry ⟨0⟩) .shared none ⟨"right", 7⟩ .read
      = .error (.blockMismatch ⟨"left", 7⟩ ⟨"right", 7⟩) := by
    have hcharge : Deployment.sharing.inCharge (.registry ⟨0⟩) "right" = .ok ⟨1⟩ := rfl
    have hclaims : Identifier.shared.checkClaims none ⟨"right", 7⟩ .read ⟨0⟩
        = .error (.blockMismatch ⟨"left", 7⟩ ⟨"right", 7⟩) := rfl
    rw [checkAccess, hcharge]
    show (Deployment.sharing.manager ⟨1⟩).checkAccess ⟨0⟩ .shared none ⟨"right", 7⟩ .read = _
    exact Manager.checkAccess_of_claims_error carries_shared.decode hclaims
  obtain ⟨-, hgranted, hleft, -, hrun⟩ := bridge_answers_as_verifier .sharing (.registry ⟨0⟩)
    ⟨.blockToken bytes, none, ⟨"left", 7⟩, .read⟩
  obtain ⟨-, -, hright, hrejected, hskipped⟩ := bridge_answers_as_verifier .sharing (.registry ⟨0⟩)
    ⟨.blockToken bytes, none, ⟨"right", 7⟩, .read⟩
  have hpair {run : Except AccessError AuthorizedCall × Deployment}
      {outcome : Except AccessError AuthorizedCall} (h : run.1 = outcome) :
      run = (outcome, run.2) := Prod.ext h rfl
  have hfirst := hpair ((hleft _ hshown).trans (congrArg (Except.map _) haccepted))
  have hsecond := hpair ((hright _ hshown).trans (congrArg (Except.map _) hrefused))
  have honce := hrun Nat Int64 AuthorizedCall.count 0
  have hnever := hskipped Nat Int64 AuthorizedCall.count 0
  rw [hfirst] at honce
  rw [hsecond] at hnever
  exact ⟨bytes, _, _, _, _, hshown, hfirst, (hgranted _ (congrArg Prod.fst hfirst)).1, honce,
    hsecond, hrejected _ (congrArg Prod.fst hsecond), hnever⟩

end BlockAccess
