import BlockAccess.Proofs.Deployment.PoolEffect
import BlockAccess.Proofs.Rotation.Invariant

/-!
# Calls that fail

A call that fails leaves nothing half done. It may have used something up: a rotation for which the
entropy failed has taken an id, and events may have been reported. `Deployment.verificationState` is
what is left of a deployment when this is put out of sight, that is the counters of the managers,
the entropy and the log. A call that fails leaves it as it was (`Request.intact`).

It remains to see that nobody notices what was used up. An operation is `Blind` if its answer, and
what it makes of the verification state, are determined by the verification state. All requests are
made of blind operations, except for those for a rotation: a rotation takes its id and its secret
from what is out of sight. A poll that finds nothing due does not get so far and is answered the
same by deployments with the same verification state (`Request.congr`). So until something is
rotated all answers are what they would have been without the call that failed.

## Main results

* `Request.intact` — a call that fails leaves the verification state as it was.
* `Request.congr` — what is not a rotation goes by the verification state.
* `Deployment.trace_requests_quiet`, `Deployment.quiet_trace_eq` — so do all answers until something
  is rotated.
* `failed_calls_unnoticed` — nobody notices a call that failed, whatever the deployment.
-/

namespace BlockAccess

/-! ## What a failed rotation uses up -/

namespace Manager

variable {m : Manager} {now : Instant} {entropy : Entropy} {e : AccessError}

/-- The manager without its counter. -/
def withoutCounter (m : Manager) : Manager := { m with nextKeyId := 0 }

/-- **A rotation that fails uses up ids at most,** wherever it fails. -/
theorem withoutCounter_rotateWindow (h : (m.rotateWindow now entropy).result = .error e) :
    (m.rotateWindow now entropy).manager.withoutCounter = m.withoutCounter := by
  revert h
  unfold rotateWindow
  cases (newestId? m.window).filter (m.nextKeyId ≤ ·) with
  | some newest => exact fun _ => rfl
  | none =>
    rcases (successors m.window now).run.run ⟨m.nextKeyId, entropy⟩ with
      ⟨error | ⟨promoted, next⟩, source⟩
    · exact fun _ => rfl
    · exact nofun

theorem withoutCounter_rotate (h : (m.rotate now entropy).result = .error e) :
    (m.rotate now entropy).manager.withoutCounter = m.withoutCounter := by
  revert h
  unfold rotate
  cases m.role with
  | slave => exact fun _ => rfl
  | master => exact withoutCounter_rotateWindow

theorem withoutCounter_rotateIfDue (h : (m.rotateIfDue now entropy).result = .error e) :
    (m.rotateIfDue now entropy).manager.withoutCounter = m.withoutCounter := by
  revert h
  unfold rotateIfDue
  cases m.role with
  | slave => exact fun _ => rfl
  | master =>
    cases m.window.isDue now with
    | false => exact nofun
    | true =>
      intro h
      cases hresult : (m.rotateWindow now entropy).result with
      | ok => simp [hresult, Except.map] at h
      | error error => exact withoutCounter_rotateWindow hresult

/-- An import does not look at the counter. -/
theorem importKeys_withoutCounter (m : Manager) (now : Instant) (e : KeyExport) :
    m.withoutCounter.importKeys now e = (m.importKeys now e).map withoutCounter := by
  obtain ⟨role, mayIssue, limit, window, counter⟩ := m
  cases role with
  | master => rfl
  | slave =>
    simp only [importKeys, withoutCounter]
    by_cases hzero : e.interval = 0 ∨ e.lifetime = 0
    · rw [if_pos hzero, if_pos hzero]
      rfl
    · rw [if_neg hzero, if_neg hzero]
      rfl

end Manager

/-- The member without the counter of its manager. -/
def Member.withoutCounter (x : Member) : Member := { x with manager := x.manager.withoutCounter }

/-- No question about tokens is answered by the counter. -/
theorem TokenQuery.answer_withoutCounter (q : TokenQuery) (state? : Option (Manager × Instant)) :
    q.answer (state?.map fun state => (state.1.withoutCounter, state.2)) = q.answer state? := by
  cases state? with
  | none => rfl
  | some state => cases q <;> rfl

/-! ## The state that answers come from -/

namespace Deployment

variable {d d' : Deployment} {r : ManagerRef}

/-- **What a deployment answers from,** unless it is asked for a rotation: all of it but the
counters, the entropy and the log. -/
def verificationState (d : Deployment) : Deployment :=
  { d with members := d.members.map (·.withoutCounter), entropy := default, log := #[] }

theorem verificationState_verificationState (d : Deployment) :
    d.verificationState.verificationState = d.verificationState := by
  simp only [verificationState, Array.map_map]
  rfl

theorem manager_verificationState (d : Deployment) (r : ManagerRef) :
    d.verificationState.manager r = (d.manager r).withoutCounter :=
  manager_viewed rfl d r

theorem now_verificationState (d : Deployment) (r : ManagerRef) :
    d.verificationState.now r = d.now r :=
  now_viewed rfl d r

theorem stateFor?_verificationState (d : Deployment) (a : Authority) (pool : String) :
    d.verificationState.stateFor? a pool
      = (d.stateFor? a pool).map fun state => (state.1.withoutCounter, state.2) := by
  cases a with
  | manager m =>
    rw [stateFor?, manager_verificationState, now_verificationState]
    rfl
  | registry r =>
    simp only [stateFor?, poolState?, Option.map_map, Function.comp_def, manager_verificationState,
      now_verificationState]
    rfl

theorem verificationState_withManager (d : Deployment) (r : ManagerRef) (m : Manager) :
    (d.withManager r m).verificationState
      = d.verificationState.withManager r m.withoutCounter :=
  congrArg (fun x : Deployment => { x with entropy := default, log := #[] })
    (viewed_withManager d r m)

/-- A manager that differs in its counter only makes no difference. -/
theorem verificationState_withManager_of_eq {m : Manager}
    (h : m.withoutCounter = (d.manager r).withoutCounter) :
    (d.withManager r m).verificationState = d.verificationState :=
  congrArg (fun x : Deployment => { x with entropy := default, log := #[] })
    (viewed_withManager_of_eq rfl h)

/-- **What the verification state holds:** clocks, registries and managers are what they are, the
counters apart. -/
theorem same_of_verificationState (h : d'.verificationState = d.verificationState) :
    d'.registries = d.registries ∧ ∀ q, d'.now q = d.now q ∧
      ∃ counter, d'.manager q = { d.manager q with nextKeyId := counter } := by
  refine ⟨congrArg (·.registries) h, fun q => ⟨?_, (d'.manager q).nextKeyId, ?_⟩⟩
  · rw [← now_verificationState, h, now_verificationState]
  · have hmanager := congrArg (·.manager q) h
    simp only [manager_verificationState] at hmanager
    rw [Manager.withoutCounter, Manager.withoutCounter, Manager.mk.injEq] at hmanager
    obtain ⟨hrole, hissue, hlimit, hwindow, -⟩ := hmanager
    simp only [← hrole, ← hissue, ← hlimit, ← hwindow]

end Deployment

open Deployment

/-! ## Operations that fail, and operations that are blind -/

section Operations

variable {α β : Type}

/-- **A failure of the operation leaves the verification state as it was.** -/
def Intact (x : Deploy (Except AccessError α)) : Prop :=
  ∀ d e d', x.run d = (.error e, d') → d'.verificationState = d.verificationState

/-- **The operation goes by the verification state:** from it come the answer, and the verification
state that is left. -/
def Blind (x : Deploy α) : Prop :=
  ∀ d, (x.run d).1 = (x.run d.verificationState).1 ∧
    (x.run d).2.verificationState = (x.run d.verificationState).2.verificationState

/-- Deployments with the same verification state are the same to a blind operation. -/
theorem Blind.congr {x : Deploy α} (h : Blind x) {d d' : Deployment}
    (hsame : d'.verificationState = d.verificationState) :
    (x.run d').1 = (x.run d).1 ∧
      (x.run d').2.verificationState = (x.run d).2.verificationState := by
  obtain ⟨hanswer, hstate⟩ := h d
  obtain ⟨hanswer', hstate'⟩ := h d'
  rw [hanswer, hanswer', hstate, hstate', hsame]
  exact ⟨rfl, rfl⟩

/-- What is made of an answer does not matter. -/
theorem Blind.map {x : Deploy (Except AccessError α)} (h : Blind x) (f : α → β) :
    Blind (do return (← x).map f) := fun d =>
  ⟨congrArg (·.map f) (h d).1, (h d).2⟩

theorem Intact.map {x : Deploy (Except AccessError α)} (h : Intact x) (f : α → β) :
    Intact (do return (← x).map f) := by
  intro d e d' hrun
  have hmapped : ((x.run d).1.map f, (x.run d).2) = (.error e, d') := hrun
  rcases hx : x.run d with ⟨error | a, d₁⟩
  · rw [hx] at hmapped
    cases hmapped
    exact h d _ _ hx
  · rw [hx] at hmapped
    cases hmapped

/-- A question that only looks leaves the deployment alone. -/
theorem Intact.of_get (f : Deployment → Except AccessError α) :
    Intact (do return f (← get)) := by
  intro d e d' hrun
  have hleft : d = d' := congrArg Prod.snd hrun
  rw [hleft]

theorem Blind.of_get {f : Deployment → α} (h : ∀ d, f d = f d.verificationState) :
    Blind (do return f (← get)) := fun d =>
  ⟨h d, (verificationState_verificationState d).symm⟩

/-- A change that cannot be refused does not fail. -/
theorem Intact.of_modify (f : Deployment → Deployment) (a : α) :
    Intact (do modify f; return .ok a) := by
  intro d e d' hrun
  have hanswer : Except.ok a = .error e := congrArg Prod.fst hrun
  cases hanswer

theorem Blind.of_modify {f : Deployment → Deployment} (a : α)
    (h : ∀ d, (f d).verificationState = (f d.verificationState).verificationState) :
    Blind (do modify f; return a) := fun d => ⟨rfl, h d⟩

end Operations

/-! ## The operations -/

theorem intact_carryOut {α : Type} {rotation : Manager → Instant → Entropy → Manager.Rotation α}
    (hrotation : ∀ m now entropy e, (rotation m now entropy).result = .error e →
      (rotation m now entropy).manager.withoutCounter = m.withoutCounter) (r : ManagerRef) :
    Intact (carryOut r rotation) := by
  intro d e d' hrun
  have hresult : (rotation (d.manager r) (d.now r) d.entropy).result = .error e :=
    congrArg Prod.fst hrun
  have hleft := congrArg (·.2.verificationState) hrun
  exact hleft.symm.trans (verificationState_withManager_of_eq (hrotation _ _ _ _ hresult))

theorem intact_importKeys (r : ManagerRef) (e : KeyExport) : Intact (importKeys r e) := by
  intro d error d' hrun
  rw [run_importKeys] at hrun
  cases himport : (d.manager r).importKeys (d.now r) e with
  | error error =>
    rw [himport] at hrun
    cases hrun
    rfl
  | ok changed =>
    rw [himport] at hrun
    cases hrun

theorem intact_ask (q : TokenQuery) (a : Authority) : Intact (q.ask a) := by
  intro d e d' hrun
  obtain ⟨log, hask, -⟩ := q.run_ask_authority a d
  rw [hask] at hrun
  have hleft := congrArg (·.2.verificationState) hrun
  exact hleft.symm

theorem intact_pool (r : RegistryRef) (call : PoolCall) : Intact (call.run r) := by
  intro d e d' hrun
  rw [(PoolCall.effect_run hrun).eq_of_refused]

theorem blind_importKeys (r : ManagerRef) (e : KeyExport) : Blind (importKeys r e) := by
  intro d
  rw [run_importKeys, run_importKeys, manager_verificationState, now_verificationState,
    Manager.importKeys_withoutCounter]
  cases (d.manager r).importKeys (d.now r) e with
  | error error => exact ⟨rfl, (verificationState_verificationState d).symm⟩
  | ok changed =>
    refine ⟨rfl, ?_⟩
    show (d.withManager r changed).verificationState
      = (d.verificationState.withManager r changed.withoutCounter).verificationState
    rw [← verificationState_withManager, verificationState_verificationState]

theorem blind_ask (q : TokenQuery) (a : Authority) : Blind (q.ask a) := by
  intro d
  obtain ⟨log, hask, -⟩ := q.run_ask_authority a d
  obtain ⟨log', hask', -⟩ := q.run_ask_authority a d.verificationState
  rw [hask, hask', stateFor?_verificationState, TokenQuery.answer_withoutCounter]
  exact ⟨rfl, (verificationState_verificationState d).symm⟩

theorem blind_addPool (r : RegistryRef) (pool : String) (m : ManagerRef) :
    Blind (addPool r pool m) := by
  intro d
  have hregistry : d.verificationState.registry r = d.registry r := rfl
  rw [run_addPool, run_addPool, hregistry]
  cases (d.registry r).add pool m with
  | error e => exact ⟨rfl, (verificationState_verificationState d).symm⟩
  | ok x => exact ⟨rfl, (verificationState_verificationState (d.withRegistry r x)).symm⟩

theorem blind_removePool (r : RegistryRef) (pool : String) : Blind (removePool r pool) := by
  intro d
  have hregistry : d.verificationState.registry r = d.registry r := rfl
  rw [run_removePool, run_removePool, hregistry]
  cases (d.registry r).remove pool with
  | error e => exact ⟨rfl, (verificationState_verificationState d).symm⟩
  | ok removed =>
    exact ⟨rfl, (verificationState_verificationState (d.withRegistry r removed.2)).symm⟩

/-- An import by way of a registry is one of the manager in charge. -/
theorem blind_importAt (e : KeyExport) (target : Target) : Blind (importAt e target) := by
  intro d
  have hresolve : d.verificationState.resolve target = d.resolve target := by
    cases target <;> rfl
  rw [run_importAt, run_importAt, hresolve]
  cases d.resolve target with
  | error error => exact ⟨rfl, (verificationState_verificationState d).symm⟩
  | ok r => exact blind_importKeys r e d

theorem blind_pool (r : RegistryRef) (call : PoolCall) : Blind (call.run r) := by
  cases call with
  | add pool m => exact (blind_addPool r pool m).map _
  | remove pool => exact (blind_removePool r pool).map _
  | importKeys pool e => exact (blind_importAt e (.pool r pool)).map _
  | ask q => exact blind_ask q (.registry r)

/-! ## Requests -/

/-- **All that a deployment is asked for:** rotations, imports, calls on its registries, answers
about tokens, exports, and whether a rotation is due. The clocks move in between. -/
inductive Request
  | rotate (r : ManagerRef)
  | rotateIfDue (r : ManagerRef)
  | importKeys (r : ManagerRef) (e : KeyExport)
  | pool (r : RegistryRef) (call : PoolCall)
  | ask (r : ManagerRef) (q : TokenQuery)
  | exportKeys (r : ManagerRef)
  | isDue (r : ManagerRef)
  | setClock (c : ClockRef) (t : Instant)
  | setSystemTime (t : Instant)
  deriving Repr

/-- What a request is answered. -/
inductive Reply
  | done
  /-- Whether the keys were rotated. -/
  | rotated (rotated : Bool)
  | pool (answer : PoolAnswer)
  | keys (e : KeyExport)
  /-- Whether a rotation is due. -/
  | due (due : Bool)
  deriving DecidableEq, Repr

namespace Request

/-- **Has the request answered.** -/
def run : Request → Deploy (Except AccessError Reply)
  | rotate r => do return (← Deployment.rotate r).map fun _ => .rotated true
  | rotateIfDue r => do return (← Deployment.rotateIfDue r).map .rotated
  | importKeys r e => do return (← Deployment.importKeys r e).map fun _ => .done
  | pool r call => do return (← call.run r).map .pool
  | ask r q => do return (← q.ask (.manager r)).map .pool
  | exportKeys r => do return ((← get).manager r).exportKeys.map .keys
  | isDue r => do
    let d ← get
    return .ok (.due ((d.manager r).window.isDue (d.now r)))
  | setClock c t => do
    Deployment.setClock c t
    return .ok .done
  | setSystemTime t => do
    modify ({ · with systemTime := t })
    return .ok .done

/-- Whether the request is not for a rotation, or was answered that none was due. -/
def quiet (answer : Except AccessError Reply) : Request → Bool
  | rotate _ => false
  | rotateIfDue _ => answer.toOption = some (.rotated false)
  | importKeys .. | pool .. | ask .. | exportKeys _ | isDue _ => true
  | setClock .. | setSystemTime _ => true

/-- **A request that fails leaves the verification state as it was.** -/
theorem intact (request : Request) : Intact request.run := by
  cases request with
  | rotate r => exact (intact_carryOut (fun _ _ _ _ => Manager.withoutCounter_rotate) r).map _
  | rotateIfDue r =>
    exact (intact_carryOut (fun _ _ _ _ => Manager.withoutCounter_rotateIfDue) r).map _
  | importKeys r e => exact (intact_importKeys r e).map _
  | pool r call => exact (intact_pool r call).map _
  | ask r q => exact (intact_ask q (.manager r)).map _
  | exportKeys r => exact .of_get fun d => (d.manager r).exportKeys.map Reply.keys
  | isDue r => exact .of_get fun d => .ok (Reply.due ((d.manager r).window.isDue (d.now r)))
  | setClock c t => exact .of_modify _ _
  | setSystemTime t => exact .of_modify _ _

/-- A poll that found nothing due finds nothing due in every deployment with the same verification
state, and leaves that state alone. -/
theorem congr_rotateIfDue {d d' : Deployment} {r : ManagerRef}
    (hsame : d'.verificationState = d.verificationState)
    (hquiet : ((Deployment.rotateIfDue r).run d').1 = .ok false) :
    ((Deployment.rotateIfDue r).run d).1 = .ok false ∧
      ((Deployment.rotateIfDue r).run d).2.verificationState = d.verificationState := by
  obtain ⟨-, hmanagers⟩ := same_of_verificationState hsame
  obtain ⟨hnow, counter, hmanager⟩ := hmanagers r
  have hresult : ((d'.manager r).rotateIfDue (d'.now r) d'.entropy).result = .ok false := hquiet
  obtain ⟨hrole, hdue⟩ := Manager.rotateIfDue_eq_ok_false_iff.1 hresult
  rw [hmanager] at hrole hdue
  rw [hnow] at hdue
  have hpoll := Manager.rotateIfDue_of_not_due (m := d.manager r) hrole hdue d.entropy
  constructor
  · exact congrArg (·.result) hpoll
  · show (d.withManager r ((d.manager r).rotateIfDue (d.now r) d.entropy).manager).verificationState
      = d.verificationState
    exact verificationState_withManager_of_eq (by rw [hpoll])

private theorem eq_ok_of_toOption {result : Except AccessError Bool}
    (h : (result.map Reply.rotated).toOption = some (.rotated false)) : result = .ok false := by
  cases result with
  | error e => cases h
  | ok rotated =>
    cases h
    rfl

/-- **A quiet request is answered the same** in deployments with the same verification state, and
they keep having the same. -/
theorem congr {request : Request} {d d' : Deployment}
    (hsame : d'.verificationState = d.verificationState)
    (hquiet : request.quiet (request.run.run d').1 = true) :
    (request.run.run d).1 = (request.run.run d').1 ∧
      (request.run.run d').2.verificationState = (request.run.run d).2.verificationState := by
  have hcongr (hblind : Blind request.run) :
      (request.run.run d).1 = (request.run.run d').1 ∧
        (request.run.run d').2.verificationState = (request.run.run d).2.verificationState := by
    obtain ⟨hanswer, hstate⟩ := hblind.congr hsame
    exact ⟨hanswer.symm, hstate⟩
  cases request with
  | rotate r => cases hquiet
  | rotateIfDue r =>
    have hanswer : (((Deployment.rotateIfDue r).run d').1.map Reply.rotated).toOption
        = some (.rotated false) := of_decide_eq_true hquiet
    have hidle := eq_ok_of_toOption hanswer
    obtain ⟨hresult, hstate⟩ := congr_rotateIfDue hsame hidle
    obtain ⟨-, hstate'⟩ := congr_rotateIfDue rfl hidle
    constructor
    · exact congrArg (·.map Reply.rotated) (hresult.trans hidle.symm)
    · exact hstate'.trans (hsame.trans hstate.symm)
  | importKeys r e => exact hcongr ((blind_importKeys r e).map _)
  | pool r call => exact hcongr ((blind_pool r call).map _)
  | ask r q => exact hcongr ((blind_ask q (.manager r)).map _)
  | exportKeys r =>
    refine hcongr (Blind.of_get fun d => ?_)
    rw [manager_verificationState]
    rfl
  | isDue r =>
    refine hcongr (Blind.of_get fun d => ?_)
    rw [manager_verificationState, now_verificationState]
    rfl
  | setClock c t =>
    exact hcongr (.of_modify _ fun d => (verificationState_verificationState _).symm)
  | setSystemTime t =>
    exact hcongr (.of_modify _ fun d => (verificationState_verificationState _).symm)

end Request

/-! ## Traces -/

/-- Requests with the answers that they got. -/
abbrev Trace := List (Request × Except AccessError Reply)

namespace Trace

/-- The requests of a trace. -/
def requests (trace : Trace) : List Request := trace.map (·.1)

/-- The trace without those requests for a rotation that were not answered that none was due. -/
def quiet (trace : Trace) : Trace := trace.filter fun entry => entry.1.quiet entry.2

theorem quiet_cons (request : Request) (answer : Except AccessError Reply) (trace : Trace) :
    quiet ((request, answer) :: trace)
      = if request.quiet answer = true then (request, answer) :: quiet trace else quiet trace :=
  List.filter_cons

/-- **Nothing was rotated:** whatever is not quiet has failed. -/
def Unrotated (trace : Trace) : Prop :=
  ∀ entry ∈ trace, entry.1.quiet entry.2 = true ∨ entry.2.isOk = false

instance (trace : Trace) : Decidable trace.Unrotated :=
  inferInstanceAs (Decidable (∀ entry ∈ trace, entry.1.quiet entry.2 = true ∨ entry.2.isOk = false))

end Trace

/-- A request that was not answered has failed, and left the verification state as it was. -/
theorem Request.intact_of_isOk {request : Request} {d : Deployment}
    (h : (request.run.run d).1.isOk = false) :
    (request.run.run d).2.verificationState = d.verificationState := by
  rcases hrun : request.run.run d with ⟨e | reply, d'⟩
  · exact request.intact d e d' hrun
  · rw [hrun] at h
    cases h

/-- **What a deployment answers** to one request after the other. -/
def Deployment.trace (d : Deployment) : List Request → Trace
  | [] => []
  | request :: rest =>
    (request, (request.run.run d).1) :: (request.run.run d).2.trace rest

/-- **Requests for a rotation that fail can be left out.** The others are answered the same without
them, also by a deployment that differs from the first one out of sight. -/
theorem Deployment.trace_requests_quiet {requests : List Request} {d d' : Deployment}
    (hsame : d'.verificationState = d.verificationState) (h : (d'.trace requests).Unrotated) :
    d.trace (d'.trace requests).quiet.requests = (d'.trace requests).quiet := by
  induction requests generalizing d d' with
  | nil => rfl
  | cons request rest ih =>
    obtain ⟨hfirst, hlater⟩ := List.forall_mem_cons.1 h
    simp only [trace, Trace.quiet_cons]
    cases hquiet : request.quiet (request.run.run d').1 with
    | true =>
      obtain ⟨hanswer, hstate⟩ := Request.congr hsame hquiet
      have hrest := ih hstate hlater
      show (request, (request.run.run d).1) :: (request.run.run d).2.trace _ = _
      rw [hanswer]
      exact congrArg _ hrest
    | false =>
      rw [hquiet] at hfirst
      have hintact := Request.intact_of_isOk (hfirst.resolve_left Bool.false_ne_true)
      exact ih (hintact.trans hsame) hlater

/-- **Deployments that differ out of sight answer alike** as long as neither rotates. -/
theorem Deployment.quiet_trace_eq {requests : List Request} {d d' : Deployment}
    (hsame : d'.verificationState = d.verificationState) (h : (d.trace requests).Unrotated)
    (h' : (d'.trace requests).Unrotated) :
    (d'.trace requests).quiet = (d.trace requests).quiet := by
  induction requests generalizing d d' with
  | nil => rfl
  | cons request rest ih =>
    obtain ⟨hfirst, hlater⟩ := List.forall_mem_cons.1 h
    obtain ⟨hfirst', hlater'⟩ := List.forall_mem_cons.1 h'
    simp only [trace, Trace.quiet_cons]
    cases hquiet : request.quiet (request.run.run d').1 with
    | true =>
      obtain ⟨hanswer, hstate⟩ := Request.congr hsame hquiet
      rw [hanswer, hquiet, if_pos rfl, if_pos rfl, ih hstate hlater hlater']
    | false =>
      -- If the request were quiet in one deployment, it would be so in the other.
      have hquiet' : request.quiet (request.run.run d).1 = false := by
        cases hloud : request.quiet (request.run.run d).1 with
        | false => rfl
        | true =>
          obtain ⟨hanswer, -⟩ := Request.congr hsame.symm hloud
          rw [hanswer, hloud] at hquiet
          cases hquiet
      rw [hquiet'] at hfirst ⊢
      rw [hquiet] at hfirst'
      rw [if_neg Bool.false_ne_true, if_neg Bool.false_ne_true]
      have hintact := Request.intact_of_isOk (hfirst.resolve_left Bool.false_ne_true)
      have hintact' := Request.intact_of_isOk (hfirst'.resolve_left Bool.false_ne_true)
      exact ih (hintact'.trans (hsame.trans hintact.symm)) hlater hlater'

/-- **Nobody notices a call that failed.** Whatever the deployment, a call that fails leaves the
registries, the clocks and the managers as they were, but for the counters of managers; an
identifier that is filled from bytes stays as it was if the bytes are refused. And whatever is asked
afterwards, it is answered as if the call had not been made, as long as nothing is rotated: the
deployment as it was before the call gives the same answers to the same requests, refusals included,
whether the requests for a rotation that fail are made there as well or are left out. -/
theorem failed_calls_unnoticed :
    (∀ (d d' : Deployment) (request : Request) (e : AccessError),
      request.run.run d = (.error e, d') →
        (d'.registries = d.registries ∧ ∀ q, d'.now q = d.now q ∧
          ∃ counter, d'.manager q = { d.manager q with nextKeyId := counter }) ∧
        ∀ requests, (d'.trace requests).Unrotated →
          d.trace (d'.trace requests).quiet.requests = (d'.trace requests).quiet ∧
          ((d.trace requests).Unrotated →
            (d'.trace requests).quiet = (d.trace requests).quiet)) ∧
    ∀ (x x' : Identifier) (bytes : List UInt8) (e : AccessError),
      x.readFrom bytes = (.error e, x') → x' = x := by
  constructor
  · intro d d' request e hfailed
    have hintact := request.intact d e d' hfailed
    refine ⟨same_of_verificationState hintact, fun requests hunrotated => ⟨?_, ?_⟩⟩
    · exact trace_requests_quiet hintact hunrotated
    · intro hunrotated'
      exact quiet_trace_eq hintact hunrotated' hunrotated
  · intro x x' bytes e h
    unfold Identifier.readFrom at h
    cases hdecode : Identifier.decode bytes with
    | ok y =>
      rw [hdecode] at h
      cases h
    | error error =>
      rw [hdecode] at h
      cases h
      rfl

/-- A master for whose keys there is no entropy. -/
def Deployment.dry : Deployment :=
  { Deployment.empty ⟨0⟩ with members := #[⟨.zeroKeyed ⟨0⟩, .system⟩], entropy := .zeros 0 }

/-- What a rotation for which the entropy failed leaves of it. -/
def Deployment.dryTried : Deployment := ((Request.rotate ⟨0⟩).run.run .dry).2

/-- What it is asked before and after a rotation becomes due. -/
def Request.untilDue : List Request :=
  [.rotateIfDue ⟨0⟩, .importKeys ⟨0⟩ ⟨1, 1, default, []⟩, .ask ⟨0⟩ (.password .blank),
    .setSystemTime ⟨600000⟩, .isDue ⟨0⟩, .rotateIfDue ⟨0⟩, .exportKeys ⟨0⟩]

/-- The rotation that fails takes an id, and the poll later on fails as well. The six other answers
are those of a master that was not asked for the rotation. -/
theorem failed_calls_unnoticed_without_entropy :
    (Request.rotate ⟨0⟩).run.run .dry = (.error (.rotation .entropy), .dryTried) ∧
      (Deployment.dryTried.manager ⟨0⟩).nextKeyId = (Deployment.dry.manager ⟨0⟩).nextKeyId + 1 ∧
      (Deployment.dryTried.manager ⟨0⟩).window = (Deployment.dry.manager ⟨0⟩).window ∧
      (Deployment.dryTried.trace Request.untilDue).quiet.length = 6 ∧
      (Deployment.dryTried.trace Request.untilDue).quiet
        = (Deployment.dry.trace Request.untilDue).quiet ∧
      ∃ e x', Identifier.blank.readFrom [] = (.error e, x') ∧ x' = .blank := by
  have hfailed : (Request.rotate ⟨0⟩).run.run .dry = (.error (.rotation .entropy), .dryTried) := rfl
  have hrefused : Identifier.blank.readFrom [] = (.error _, _) := rfl
  obtain ⟨⟨-, hmanagers⟩, htraces⟩ := failed_calls_unnoticed.1 _ _ _ _ hfailed
  obtain ⟨-, counter, hmanager⟩ := hmanagers ⟨0⟩
  have hbefore : (Deployment.dry.trace Request.untilDue).Unrotated := by decide
  have hafter : (Deployment.dryTried.trace Request.untilDue).Unrotated := by decide
  obtain ⟨-, hsame⟩ := htraces Request.untilDue hafter
  exact ⟨hfailed, rfl, congrArg (·.window) hmanager, rfl, hsame hbefore, _, _, hrefused,
    failed_calls_unnoticed.2 _ _ _ _ hrefused⟩

end BlockAccess
