import BlockAccess.Deployment.Distribution

/-!
# Running rotation tasks

Tasks tick by the timer of their deployment, which moves only when it is told to. A task ticks when
it begins and then once in every period. Each tick is planned when the one before it is done, and
ticks of several tasks at one time are in the order in which they were planned: the task with the
longer period comes first, and of two with the same period the one that began first. A task cannot
work with a period of zero; it breaks down at once. One with a period beyond `longestPeriod` ticks
as often as that.
-/

namespace BlockAccess.Deployment

/-- Puts another task in the place of one. -/
def setTask (t : TaskRef) (task : RotationTask) : Deploy Unit := modify fun d =>
  { d with tasks := d.tasks.setIfInBounds t.index task }

/-- Delivers the keys of a task, if they have to be delivered. -/
def deliverPending (task : RotationTask) : Deploy RotationTask := do
  if task.progress.isFinished || !task.progress.pending then return task
  match ((← get).manager task.manager).exportKeys with
  | .error e => return { task with progress := task.progress.finish (.error e) }
  | .ok keys =>
    let (outcome, task) ← deliver task keys
    match outcome with
    | .accepted => report [.delivered keys.keyIds]
    | .refused e => report [.deliveryFailed e]
    | .brokeDown => pure ()
    return { task with progress := task.progress.afterDelivery outcome }

/-- **A tick of a task** that has not ended. -/
def tick (t : TaskRef) : Deploy Unit := do
  match (← get).tasks[t.index]? with
  | none => return ()
  | some task =>
    if task.progress.isFinished then return ()
    let rotated ← rotateIfDue task.manager
    match rotated with
    | .error e => report [.rotationStopped e]
    | .ok _ => pure ()
    let task := { task with progress := task.progress.afterRotation rotated }
    setTask t (← deliverPending task)

/-- **Begins a task** with its first tick. A period that is too long is cut. -/
def spawn (manager : ManagerRef) (channel : Channel) (period : Nat) : Deploy TaskRef := do
  let d ← get
  let t : TaskRef := ⟨d.tasks.size⟩
  let progress :=
    if period = 0 then TaskProgress.start.finish (.error (.rotation .taskIncomplete))
    else .start
  set { d with
    tasks := d.tasks.push ⟨manager, channel, d.timer, min period longestPeriod, progress, []⟩ }
  tick t
  return t

/-- The ticks of all tasks after the present time and not after `til`, in their order. -/
def ticksUntil (d : Deployment) (til : Nat) : List TaskRef :=
  let ticks := d.tasks.toList.zipIdx.flatMap fun (task, i) =>
    if task.progress.isFinished then []
    else (tickTimes task.start task.period d.timer til).map fun time =>
      (time, task.period, TaskRef.mk i)
  let sorted := ticks.mergeSort fun (s, p, _) (t, q, _) => s < t || (s = t && q ≤ p)
  sorted.map fun (_, _, t) => t

/-- Performs ticks one after the other. -/
def performTicks : List TaskRef → Deploy Unit
  | [] => return ()
  | t :: rest => do
    tick t
    performTicks rest

/-- **Moves the timer on** by `millis`, with all ticks on the way. -/
def runFor (millis : Nat) : Deploy Unit := do
  let d ← get
  let til := d.timer + millis
  performTicks (d.ticksUntil til)
  modify ({ · with timer := til })

/-- How a task ended, if it has. -/
def taskEnding? (d : Deployment) (t : TaskRef) : Option (Except AccessError Unit) :=
  d.tasks[t.index]?.bind (·.progress.ending?)

/-- **Stops a task,** and gives the way it ended: one that had not ended before ends well. -/
def stopTask (t : TaskRef) : Deploy (Except AccessError Unit) := do
  match (← get).tasks[t.index]? with
  | none => return .ok ()
  | some task =>
    let progress := task.progress.stop
    setTask t { task with progress }
    return progress.ending?.getD (.ok ())

/-- Takes the deliveries that a rehearsal has seen. -/
def takeDeliveries (t : TaskRef) : Deploy (List Delivery) := do
  match (← get).tasks[t.index]? with
  | none => return []
  | some task =>
    setTask t { task with deliveries := [] }
    return task.deliveries

end BlockAccess.Deployment
