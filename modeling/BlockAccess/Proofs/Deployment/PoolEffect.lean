import BlockAccess.Proofs.Deployment.Distribution

/-!
# What a call on a registry does

A registry is called to add a pool, to remove one, to have the manager of a pool import keys, and to
ask it something about tokens. `PoolCall.run` makes any of these calls, and `PoolEffect` lists all
that it can do and under which conditions: on success one thing changes, the registry or one manager
or the log, and on failure nothing does. What is proved of registries is proved by going through
this list; the operations behind it are opened here and nowhere else.

What is answered about tokens is the answer of a manager. `TokenQuery.answer` gives it as a function
of that manager and the time, and `TokenQuery.run_ask_authority` says that nothing else goes into
it.

## Main results

* `TokenQuery.run_ask_authority` — an authority answers as the manager in charge does.
* `PoolCall.effect_run` — a call has one of the listed effects.
-/

namespace BlockAccess

open Deployment

/-! ## Calls -/

/-- What is asked of those who answer for tokens. -/
inductive TokenQuery
  | mint (block : Block) (modes : AccessModes) (owner? : Option String)
  | checkAccess (t : Token) (owner? : Option String) (block : Block) (mode : AccessMode)
  | checkIdentifier (x : Identifier) (owner? : Option String) (block : Block) (mode : AccessMode)
  | password (x : Identifier)
  deriving DecidableEq, Repr

/-- What a registry gives back. -/
inductive PoolAnswer
  | done
  | manager (r : ManagerRef)
  | token (t : Token)
  | identifier (x : Identifier)
  | password (p : List UInt8)
  deriving DecidableEq, Repr

namespace TokenQuery

/-- The pool that a question is about. -/
def pool : TokenQuery → String
  | mint block .. | checkAccess _ _ block _ | checkIdentifier _ _ block _ => block.pool
  | password x => x.block.pool

/-- **Asks the question.** -/
def ask (a : Authority) : TokenQuery → Deploy (Except AccessError PoolAnswer)
  | mint block modes owner? => do
    return (← Deployment.mint a block modes owner?).map .token
  | checkAccess t owner? block mode => do
    return ((← get).checkAccess a t owner? block mode).map .identifier
  | checkIdentifier x owner? block mode => do
    return ((← get).checkIdentifier a x owner? block mode).map fun _ => .done
  | password x => do
    return ((← get).password a x).map .password

/-- What a manager answers at a time, if there is one. -/
def answer (q : TokenQuery) : Option (Manager × Instant) → Except AccessError PoolAnswer
  | none => .error (.unknownPool q.pool)
  | some (m, now) =>
    match q with
    | mint block modes owner? => (m.mint now block modes owner?).map .token
    | checkAccess t owner? block mode => (m.checkAccess now t owner? block mode).map .identifier
    | checkIdentifier x owner? block mode =>
      (m.checkIdentifier now x owner? block mode).map fun _ => .done
    | password x => (m.password now x).map .password

end TokenQuery

/-- A call on a registry. -/
inductive PoolCall
  | add (pool : String) (m : ManagerRef)
  | remove (pool : String)
  | importKeys (pool : String) (e : KeyExport)
  | ask (q : TokenQuery)
  deriving Repr

namespace PoolCall

/-- The pool that a call is about. -/
def pool : PoolCall → String
  | add pool _ | remove pool | importKeys pool _ => pool
  | ask q => q.pool

/-- **Makes the call.** -/
def run (r : RegistryRef) : PoolCall → Deploy (Except AccessError PoolAnswer)
  | add pool m => do return (← addPool r pool m).map fun _ => .done
  | remove pool => do return (← removePool r pool).map .manager
  | importKeys pool e => do return (← importAt e (.pool r pool)).map fun _ => .done
  | ask q => q.ask (.registry r)

/-- A manager that is handed over is not in the registry yet. -/
def Fresh (r : RegistryRef) (d : Deployment) : PoolCall → Prop
  | add _ m => ∀ pool, (d.registry r).find? pool ≠ some m
  | remove _ | importKeys .. | ask _ => True

end PoolCall

namespace Deployment

variable {d : Deployment} {r : RegistryRef}

/-! ## Another registry in the place of one -/

/-- What a registry knows of a pool: its manager as it is, and the time it goes by. -/
def poolState? (d : Deployment) (r : RegistryRef) (pool : String) : Option (Manager × Instant) :=
  ((d.registry r).find? pool).map fun m => (d.manager m, d.now m)

/-- The manager that answers for a pool, and the time it goes by. -/
def stateFor? (d : Deployment) (a : Authority) (pool : String) : Option (Manager × Instant) :=
  match a with
  | .manager m => some (d.manager m, d.now m)
  | .registry r => d.poolState? r pool

/-- There is a manager in charge, or the pool is unknown. -/
theorem inCharge_cases (d : Deployment) (a : Authority) (pool : String) :
    (d.inCharge a pool = .error (.unknownPool pool) ∧ d.stateFor? a pool = none) ∨
      ∃ m, d.inCharge a pool = .ok m ∧ d.stateFor? a pool = some (d.manager m, d.now m) := by
  cases a with
  | manager m => exact .inr ⟨m, rfl, rfl⟩
  | registry r =>
    simp only [inCharge, Registry.find, stateFor?, poolState?]
    cases (d.registry r).find? pool with
    | none => exact .inl ⟨rfl, rfl⟩
    | some m => exact .inr ⟨m, rfl, rfl⟩

/-- The deployment with another registry in the place of one. -/
def withRegistry (d : Deployment) (r : RegistryRef) (x : Registry ManagerRef) : Deployment :=
  { d with registries := d.registries.setIfInBounds r.index x }

theorem registry_withRegistry (h : r.index < d.registries.size) (x : Registry ManagerRef) :
    (d.withRegistry r x).registry r = x := by
  rw [registry, withRegistry, Array.getD_eq_getD_getElem?,
    Array.getElem?_setIfInBounds_self_of_lt h]
  rfl

@[simp]
theorem size_withRegistry (d : Deployment) (r : RegistryRef) (x : Registry ManagerRef) :
    (d.withRegistry r x).registries.size = d.registries.size := Array.size_setIfInBounds

theorem run_addPool (r : RegistryRef) (pool : String) (m : ManagerRef) (d : Deployment) :
    (addPool r pool m).run d =
      match (d.registry r).add pool m with
      | .error e => (.error e, d)
      | .ok x => (.ok (), { d.withRegistry r x with
          log := d.log ++ #[.poolAdded pool (d.manager m).role] }) := by
  show (match (d.registry r).add pool m with
    | .error e => _
    | .ok x => _ : Deploy _) d = _
  cases (d.registry r).add pool m <;> rfl

theorem run_removePool (r : RegistryRef) (pool : String) (d : Deployment) :
    (removePool r pool).run d =
      match (d.registry r).remove pool with
      | .error e => (.error e, d)
      | .ok (m, x) => (.ok m, { d.withRegistry r x with
          log := d.log ++ #[.poolRemoved pool] }) := by
  show (match (d.registry r).remove pool with
    | .error e => _
    | .ok (m, x) => _ : Deploy _) d = _
  cases (d.registry r).remove pool <;> rfl

theorem run_mint (a : Authority) (block : Block) (modes : AccessModes) (owner? : Option String)
    (d : Deployment) :
    (Deployment.mint a block modes owner?).run d =
      match d.inCharge a block.pool with
      | .error e => (.error e, d)
      | .ok m =>
        match (d.manager m).mint (d.now m) block modes owner? with
        | .error e => (.error e, d)
        | .ok t => (.ok t, { d with
            log := d.log ++ ((d.manager m).mintEvents block modes).toArray }) := by
  show (match d.inCharge a block.pool with
    | .error e => _
    | .ok m => _ : Deploy _) d = _
  cases d.inCharge a block.pool with
  | error e => rfl
  | ok m =>
    dsimp only
    cases (d.manager m).mint (d.now m) block modes owner? <;> rfl

/-- Behind every token there is a manager that minted it. -/
theorem mint_eq_ok_iff {a : Authority} {block : Block} {modes : AccessModes}
    {owner? : Option String} {t : Token} :
    ((mint a block modes owner?).run d).1 = .ok t ↔
      ∃ m, d.inCharge a block.pool = .ok m ∧
        (d.manager m).mint (d.now m) block modes owner? = .ok t := by
  rw [run_mint]
  cases d.inCharge a block.pool with
  | error e => simp
  | ok m =>
    simp only [Except.ok.injEq, exists_eq_left']
    cases (d.manager m).mint (d.now m) block modes owner? <;> rfl

end Deployment

/-! ## All that a call does -/

variable {r : RegistryRef} {d d' : Deployment} {call : PoolCall}
  {answer : Except AccessError PoolAnswer}

/-- **Whoever is asked, the answer is that of a manager.** Nothing is changed but the log, and even
that stays as it was if the answer is a refusal. -/
theorem TokenQuery.run_ask_authority (q : TokenQuery) (a : Authority) (d : Deployment) :
    ∃ log, (q.ask a).run d = (q.answer (d.stateFor? a q.pool), { d with log }) ∧
      ∀ e, q.answer (d.stateFor? a q.pool) = .error e → log = d.log := by
  cases q with
  | mint block modes owner? =>
    have hrun : (ask a (.mint block modes owner?)).run d =
        (((Deployment.mint a block modes owner?).run d).1.map PoolAnswer.token,
          ((Deployment.mint a block modes owner?).run d).2) := rfl
    rw [hrun, run_mint]
    rcases inCharge_cases d a block.pool with ⟨hcharge, hstate⟩ | ⟨m, hcharge, hstate⟩
    · rw [hcharge, pool, hstate]
      exact ⟨d.log, rfl, fun _ _ => rfl⟩
    · rw [hcharge, pool, hstate]
      simp only [answer]
      cases (d.manager m).mint (d.now m) block modes owner? with
      | error e => exact ⟨d.log, rfl, fun _ _ => rfl⟩
      | ok t => exact ⟨_, rfl, nofun⟩
  | checkAccess t owner? block mode =>
    refine ⟨d.log, ?_, fun _ _ => rfl⟩
    show ((d.checkAccess a t owner? block mode).map PoolAnswer.identifier, d) = _
    rcases inCharge_cases d a block.pool with ⟨hcharge, hstate⟩ | ⟨m, hcharge, hstate⟩ <;>
      rw [Deployment.checkAccess, hcharge, pool, hstate] <;> rfl
  | checkIdentifier x owner? block mode =>
    refine ⟨d.log, ?_, fun _ _ => rfl⟩
    show ((d.checkIdentifier a x owner? block mode).map fun _ => PoolAnswer.done, d) = _
    rcases inCharge_cases d a block.pool with ⟨hcharge, hstate⟩ | ⟨m, hcharge, hstate⟩ <;>
      rw [Deployment.checkIdentifier, hcharge, pool, hstate] <;> rfl
  | password x =>
    refine ⟨d.log, ?_, fun _ _ => rfl⟩
    show ((d.password a x).map PoolAnswer.password, d) = _
    rcases inCharge_cases d a x.block.pool with ⟨hcharge, hstate⟩ | ⟨m, hcharge, hstate⟩ <;>
      rw [Deployment.password, hcharge, pool, hstate] <;> rfl

/-- **The answer of a registry to a question is that of the manager of its pool.** -/
theorem TokenQuery.run_ask (q : TokenQuery) (r : RegistryRef) (d : Deployment) :
    ∃ log, (q.ask (.registry r)).run d = (q.answer (d.poolState? r q.pool), { d with log }) ∧
      ∀ e, q.answer (d.poolState? r q.pool) = .error e → log = d.log :=
  q.run_ask_authority (.registry r) d

/-- **All that a call can do:** what is answered, and the deployment that is left. A call that is
refused leaves everything as it was. -/
inductive PoolEffect (r : RegistryRef) (d : Deployment) :
    PoolCall → Except AccessError PoolAnswer → Deployment → Prop
  | added {pool : String} {m : ManagerRef} {x : Registry ManagerRef} (log : Array Event)
      (hfree : (d.registry r).find? pool = none) (hadd : (d.registry r).add pool m = .ok x) :
      PoolEffect r d (.add pool m) (.ok .done) { d.withRegistry r x with log }
  | duplicate {pool : String} {m held : ManagerRef}
      (hheld : (d.registry r).find? pool = some held) :
      PoolEffect r d (.add pool m) (.error (.duplicatePool pool)) d
  | removed {pool : String} {m : ManagerRef} {x : Registry ManagerRef} (log : Array Event)
      (hheld : (d.registry r).find? pool = some m)
      (hremove : (d.registry r).remove pool = .ok (m, x)) :
      PoolEffect r d (.remove pool) (.ok (.manager m)) { d.withRegistry r x with log }
  | missing {pool : String} (hfree : (d.registry r).find? pool = none) :
      PoolEffect r d (.remove pool) (.error (.unknownPool pool)) d
  | imported {pool : String} {e : KeyExport} {m : ManagerRef} {changed : Manager}
      (log : Array Event) (hheld : (d.registry r).find? pool = some m)
      (himport : (d.manager m).importKeys (d.now m) e = .ok changed) :
      PoolEffect r d (.importKeys pool e) (.ok .done) { d.withManager m changed with log }
  | unserved {pool : String} {e : KeyExport} (hfree : (d.registry r).find? pool = none) :
      PoolEffect r d (.importKeys pool e) (.error (.unknownPool pool)) d
  | notImported {pool : String} {e : KeyExport} {m : ManagerRef} {error : AccessError}
      (hheld : (d.registry r).find? pool = some m)
      (himport : (d.manager m).importKeys (d.now m) e = .error error) :
      PoolEffect r d (.importKeys pool e) (.error error) d
  | answered {q : TokenQuery} {a : PoolAnswer} (log : Array Event)
      (hanswer : q.answer (d.poolState? r q.pool) = .ok a) :
      PoolEffect r d (.ask q) (.ok a) { d with log }
  | notAnswered {q : TokenQuery} {error : AccessError}
      (hanswer : q.answer (d.poolState? r q.pool) = .error error) :
      PoolEffect r d (.ask q) (.error error) d

/-- **Every call has one of the effects.** -/
theorem PoolCall.effect_run (h : (call.run r).run d = (answer, d')) :
    PoolEffect r d call answer d' := by
  cases call with
  | add pool m =>
    have hrun : ((PoolCall.add pool m).run r).run d =
        (((addPool r pool m).run d).1.map fun _ => .done, ((addPool r pool m).run d).2) := rfl
    rw [hrun, run_addPool] at h
    cases hfind : (d.registry r).find? pool with
    | none =>
      obtain ⟨x, hadd⟩ : ∃ x, (d.registry r).add pool m = .ok x := by
        rw [Registry.add, hfind]
        exact ⟨_, rfl⟩
      rw [hadd] at h
      cases h
      exact .added _ hfind hadd
    | some held =>
      rw [Registry.add, hfind] at h
      cases h
      exact .duplicate hfind
  | remove pool =>
    have hrun : ((PoolCall.remove pool).run r).run d =
        (((removePool r pool).run d).1.map .manager, ((removePool r pool).run d).2) := rfl
    rw [hrun, run_removePool] at h
    cases hfind : (d.registry r).find? pool with
    | none =>
      rw [Registry.remove, hfind] at h
      cases h
      exact .missing hfind
    | some m =>
      obtain ⟨x, hremove⟩ : ∃ x, (d.registry r).remove pool = .ok (m, x) := by
        rw [Registry.remove, hfind]
        exact ⟨_, rfl⟩
      rw [hremove] at h
      cases h
      exact .removed _ hfind hremove
  | importKeys pool e =>
    have hrun : ((PoolCall.importKeys pool e).run r).run d =
        (((importAt e (.pool r pool)).run d).1.map fun _ => .done,
          ((importAt e (.pool r pool)).run d).2) := rfl
    rw [hrun, run_importAt, resolve, Registry.find] at h
    cases hfind : (d.registry r).find? pool with
    | none =>
      rw [hfind] at h
      cases h
      exact .unserved hfind
    | some m =>
      simp only [hfind, run_importKeys] at h
      cases himport : (d.manager m).importKeys (d.now m) e with
      | error error =>
        rw [himport] at h
        cases h
        exact .notImported hfind himport
      | ok changed =>
        rw [himport] at h
        cases h
        exact .imported _ hfind himport
  | ask q =>
    obtain ⟨log, hrun, hrefused⟩ := q.run_ask r d
    rw [PoolCall.run, hrun] at h
    cases hanswer : q.answer (d.poolState? r q.pool) with
    | error error =>
      obtain rfl := hrefused error hanswer
      rw [hanswer] at h
      cases h
      exact .notAnswered hanswer
    | ok a =>
      rw [hanswer] at h
      cases h
      exact .answered log hanswer

/-- A call that is refused changes nothing. -/
theorem PoolEffect.eq_of_refused {e : AccessError} (h : PoolEffect r d call (.error e) d') :
    d' = d := by
  cases h <;> rfl

end BlockAccess
