import BlockAccess.Bridge
import BlockAccess.Manager.Access
import BlockAccess.Manager.Keys
import BlockAccess.Registry
import BlockAccess.RotationTask

/-!
# Deployments

Managers, clocks, registries and rotation tasks that work side by side. They are shared: the same
manager may stand in a registry, be looked after by a task and be used directly. So a `Deployment`
keeps them in tables, and they are meant by references into these tables. Operations are state
transformers (`Deploy`); one that can fail gives its outcome as a value, and says itself what it
leaves behind.

A reference that was never handed out reads as a slave without keys and as a registry without pools.
-/

namespace BlockAccess

/-- A clock of a deployment. -/
structure ClockRef where
  index : Nat
  deriving DecidableEq, Repr

/-- A manager of a deployment. -/
structure ManagerRef where
  index : Nat
  deriving DecidableEq, Repr

/-- A registry of a deployment. -/
structure RegistryRef where
  index : Nat
  deriving DecidableEq, Repr

/-- A rotation task of a deployment. -/
structure TaskRef where
  index : Nat
  deriving DecidableEq, Repr

/-- Where a manager reads the time. -/
inductive TimeSource
  | clock (ref : ClockRef)
  | system
  deriving DecidableEq, Repr

instance : Inhabited TimeSource := ⟨.system⟩

/-- A manager together with its clock. -/
structure Member where
  manager : Manager
  time : TimeSource
  deriving Inhabited, Repr

/-- A place to which keys are delivered. -/
inductive Target
  | manager (ref : ManagerRef)
  | pool (registry : RegistryRef) (name : String)
  deriving DecidableEq, Repr

/-- The way on which a task delivers keys. -/
inductive Channel
  /-- Straight to the targets, one after the other. -/
  | direct (targets : List Target)
  /-- A rehearsal: each delivery turns out as planned, and succeeds once the plan is used up. A
  delivery that succeeds goes to the target, if there is one. -/
  | rehearsed (plan : List Rehearsal) (target? : Option ManagerRef)
  deriving Repr

/-- A delivery that a rehearsal has seen. -/
structure Delivery where
  outcome : Rehearsal
  keys : List KeyId
  deriving DecidableEq, Repr

/-- A rotation task of a deployment. -/
structure RotationTask where
  manager : ManagerRef
  channel : Channel
  /-- When the task began, on the timer. -/
  start : Nat
  period : Nat
  progress : TaskProgress
  /-- The deliveries that a rehearsal has seen and nobody has asked for. -/
  deliveries : List Delivery

/-- Everything that works together. -/
structure Deployment where
  /-- What the clock of the system shows. -/
  systemTime : Instant
  clocks : Array Instant
  members : Array Member
  registries : Array (Registry ManagerRef)
  tasks : Array RotationTask
  /-- The time of the timer that tasks tick by, in milliseconds. -/
  timer : Nat
  entropy : Entropy
  log : Array Event

/-- An operation on a deployment. -/
abbrev Deploy (α : Type) := StateM Deployment α

namespace Deployment

/-- The deployment in which there is nothing yet. -/
def empty (systemTime : Instant) : Deployment :=
  ⟨systemTime, #[], #[], #[], #[], 0, default, #[]⟩

/-! ## Reading -/

/-- What a clock shows. -/
def clockTime (d : Deployment) (c : ClockRef) : Instant := d.clocks.getD c.index .epoch

/-- What a time source shows. -/
def timeOf (d : Deployment) : TimeSource → Instant
  | .clock c => d.clockTime c
  | .system => d.systemTime

/-- The manager that a reference means, with its clock. -/
def member (d : Deployment) (r : ManagerRef) : Member := d.members.getD r.index default

/-- The manager that a reference means. -/
def manager (d : Deployment) (r : ManagerRef) : Manager := (d.member r).manager

/-- The time for a manager. -/
def now (d : Deployment) (r : ManagerRef) : Instant := d.timeOf (d.member r).time

/-- The registry that a reference means. -/
def registry (d : Deployment) (r : RegistryRef) : Registry ManagerRef :=
  d.registries.getD r.index default

/-! ## Changing -/

/-- Adds events to the log. -/
def report (events : List Event) : Deploy Unit := modify fun d =>
  { d with log := d.log ++ events.toArray }

/-- Takes the log, and begins a new one. -/
def takeLog : Deploy (Array Event) := modifyGet fun d => (d.log, { d with log := #[] })

/-- Puts another source of entropy in place. -/
def setEntropy (entropy : Entropy) : Deploy Unit := modify ({ · with entropy })

/-- Sets up a clock. -/
def newClock (t : Instant) : Deploy ClockRef := modifyGet fun d =>
  (⟨d.clocks.size⟩, { d with clocks := d.clocks.push t })

/-- Sets up a clock that shows what the clock of the system shows. -/
def newClockNow : Deploy ClockRef := do newClock (← get).systemTime

/-- Sets a clock. -/
def setClock (c : ClockRef) (t : Instant) : Deploy Unit := modify fun d =>
  { d with clocks := d.clocks.setIfInBounds c.index t }

/-- Moves a clock, in either direction. -/
def moveClock (c : ClockRef) (millis : Int64) : Deploy Unit := do
  setClock c (((← get).clockTime c).shift millis)

/-- Makes a key with the given id. -/
def generateKey (id : KeyId) (expiry : Instant) : Deploy (Except AccessError BlockKey) :=
  modifyGet fun d =>
    let (made, source) := (KeySource.keyWithId id expiry).run.run ⟨0, d.entropy⟩
    (made, { d with entropy := source.entropy })

/-- Puts another manager in the place of one. -/
def setManager (r : ManagerRef) (m : Manager) : Deploy Unit := modify fun d =>
  { d with members := d.members.modify r.index ({ · with manager := m }) }

/-- **Makes a manager** that reads the time from the given source. -/
def enroll (role : Role) (s : Settings) (time : TimeSource) :
    Deploy (Except AccessError ManagerRef) := do
  let d ← get
  let creation := Manager.create role s (d.timeOf time) d.entropy
  setEntropy creation.entropy
  report creation.events
  match creation.result with
  | .error e => return .error e
  | .ok m =>
    modify fun d => { d with members := d.members.push ⟨m, time⟩ }
    return .ok ⟨d.members.size⟩

/-- Carries out a rotation of a manager. -/
def carryOut {α : Type} (r : ManagerRef)
    (rotation : Manager → Instant → Entropy → Manager.Rotation α) :
    Deploy (Except AccessError α) := do
  let d ← get
  let done := rotation (d.manager r) (d.now r) d.entropy
  setManager r done.manager
  setEntropy done.entropy
  report done.events
  return done.result

/-- Rotates the keys of a master. -/
def rotate (r : ManagerRef) : Deploy (Except AccessError Unit) := carryOut r Manager.rotate

/-- Rotates the keys of a master if that is due. -/
def rotateIfDue (r : ManagerRef) : Deploy (Except AccessError Bool) :=
  carryOut r Manager.rotateIfDue

/-- Has a slave take over the keys of an export. -/
def importKeys (r : ManagerRef) (e : KeyExport) : Deploy (Except AccessError Unit) := do
  let d ← get
  let m := d.manager r
  match m.importKeys (d.now r) e with
  | .error error => return .error error
  | .ok changed =>
    setManager r changed
    report (m.importEvents (d.now r) e)
    return .ok ()

/-! ## Registries -/

/-- Sets up a registry. -/
def newRegistry : Deploy RegistryRef := modifyGet fun d =>
  (⟨d.registries.size⟩, { d with registries := d.registries.push .empty })

/-- Puts another registry in the place of one. -/
def setRegistry (r : RegistryRef) (registry : Registry ManagerRef) : Deploy Unit :=
  modify fun d => { d with registries := d.registries.setIfInBounds r.index registry }

/-- Registers a pool with a manager. -/
def addPool (r : RegistryRef) (pool : String) (m : ManagerRef) :
    Deploy (Except AccessError Unit) := do
  let d ← get
  match (d.registry r).add pool m with
  | .error e => return .error e
  | .ok registry =>
    setRegistry r registry
    report [.poolAdded pool (d.manager m).role]
    return .ok ()

/-- Takes a pool out of a registry. -/
def removePool (r : RegistryRef) (pool : String) : Deploy (Except AccessError ManagerRef) := do
  match ((← get).registry r).remove pool with
  | .error e => return .error e
  | .ok (m, registry) =>
    setRegistry r registry
    report [.poolRemoved pool]
    return .ok m

/-! ## Tokens -/

end Deployment

/-- Who answers for tokens: a manager for all blocks, or a registry, which passes every question
on to the manager of the block's pool. -/
inductive Authority
  | manager (ref : ManagerRef)
  | registry (ref : RegistryRef)
  deriving DecidableEq, Repr

namespace Deployment

/-- The manager in charge of a pool. -/
def inCharge (d : Deployment) (a : Authority) (pool : String) : Except AccessError ManagerRef :=
  match a with
  | .manager r => .ok r
  | .registry r => (d.registry r).find pool

/-- Has the manager in charge of the block mint a token. -/
def mint (a : Authority) (block : Block) (modes : AccessModes) (owner? : Option String) :
    Deploy (Except AccessError Token) := do
  let d ← get
  match d.inCharge a block.pool with
  | .error e => return .error e
  | .ok r =>
    match (d.manager r).mint (d.now r) block modes owner? with
    | .error e => return .error e
    | .ok t =>
      report ((d.manager r).mintEvents block modes)
      return .ok t

/-- Has the manager in charge of the block check a token. -/
def checkAccess (d : Deployment) (a : Authority) (t : Token) (owner? : Option String)
    (block : Block) (mode : AccessMode) : Except AccessError Identifier := do
  let r ← d.inCharge a block.pool
  (d.manager r).checkAccess (d.now r) t owner? block mode

/-- Behind every acceptance there is the manager in charge of the block. -/
theorem checkAccess_eq_ok_iff {d : Deployment} {a : Authority} {t : Token} {owner? : Option String}
    {block : Block} {mode : AccessMode} {x : Identifier} :
    d.checkAccess a t owner? block mode = .ok x ↔
      ∃ r, d.inCharge a block.pool = .ok r ∧
        (d.manager r).checkAccess (d.now r) t owner? block mode = .ok x := by
  unfold checkAccess
  cases d.inCharge a block.pool <;> simp [bind, Except.bind]

/-- Has the manager in charge of the block check an identifier. -/
def checkIdentifier (d : Deployment) (a : Authority) (x : Identifier) (owner? : Option String)
    (block : Block) (mode : AccessMode) : Except AccessError Unit := do
  let r ← d.inCharge a block.pool
  (d.manager r).checkIdentifier (d.now r) x owner? block mode

/-- Has the manager in charge of the identifier's own block make its password. -/
def password (d : Deployment) (a : Authority) (x : Identifier) :
    Except AccessError (List UInt8) := do
  let r ← d.inCharge a x.block.pool
  (d.manager r).password (d.now r) x

/-- **Authorises a call** by an authority. -/
def authorize (a : Authority) (call : InboundCall) :
    Deploy (Except AccessError AuthorizedCall) := do
  let outcome := call.authorize ((← get).checkAccess a)
  report (call.events outcome)
  return outcome

/-- **Authorises a call and hands it to a handler,** which is run once for a call that is
authorised, and not at all for any other. The handler may act on the deployment and have effects of
its own. -/
def dispatch {m : Type → Type} [Monad m] {β : Type} (a : Authority) (call : InboundCall)
    (handler : AuthorizedCall → StateT Deployment m β) :
    StateT Deployment m (Except AccessError β) := do
  let outcome ← modifyGet fun d => (authorize a call).run d
  InboundCall.dispatch outcome handler

end Deployment

end BlockAccess
