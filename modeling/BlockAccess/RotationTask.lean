import BlockAccess.Key.Export
import BlockAccess.AccessError

/-!
# Rotation tasks

A rotation task looks after the keys of one master. It ticks at a fixed period: each tick rotates
the keys if that is due, and delivers them to the slaves if the last delivery did not succeed or
there are new keys. A delivery that fails is tried again by the next tick; a rotation that fails
ends the task.

Here is the state of a task and the way the parts of a tick move it on. How keys are delivered is
said in `BlockAccess.Deployment.Distribution`.
-/

namespace BlockAccess

/-- The outcome of a delivery. -/
inductive DeliveryOutcome
  | accepted
  | refused (error : AccessError)
  /-- The delivery did not come back. -/
  | brokeDown
  deriving DecidableEq, Repr

/-- Where a task stands. -/
structure TaskProgress where
  /-- Whether the keys have to be delivered. -/
  pending : Bool
  /-- How the task ended, if it has. -/
  ending? : Option (Except AccessError Unit)

namespace TaskProgress

/-- A task before its first tick: the keys there are have to be delivered. -/
def start : TaskProgress := ⟨true, none⟩

def isFinished (p : TaskProgress) : Bool := p.ending?.isSome

/-- The task, ended. -/
def finish (p : TaskProgress) (ending : Except AccessError Unit) : TaskProgress :=
  { p with ending? := some ending }

/-- The task after its rotation step, which told whether there are new keys. -/
def afterRotation (p : TaskProgress) : Except AccessError Bool → TaskProgress
  | .ok rotated => { p with pending := p.pending || rotated }
  | .error e => p.finish (.error e)

/-- The task after a delivery. -/
def afterDelivery (p : TaskProgress) : DeliveryOutcome → TaskProgress
  | .accepted => { p with pending := false }
  | .refused _ => p
  | .brokeDown => p.finish (.error (.rotation .taskIncomplete))

/-- The task that is told to stop. One that has ended before keeps its ending. -/
def stop (p : TaskProgress) : TaskProgress := if p.isFinished then p else p.finish (.ok ())

end TaskProgress

/-- How a rehearsed delivery is to turn out. -/
inductive Rehearsal
  | succeed
  | fail
  | breakDown
  deriving DecidableEq, Repr

/-- No task waits longer than this for its next tick: thirty years of 365 days, in milliseconds. -/
def longestPeriod : Nat := 946080000000

/-- The times after `since` and not after `until` at which something ticks that has begun at
`start` and ticks every `period`. The beginning itself is not among them. -/
def tickTimes (start period since til : Nat) : List Nat :=
  let first := (since - start) / period + 1
  let last := (til - start) / period
  (List.range (last + 1 - first)).map fun k => start + (first + k) * period

end BlockAccess
