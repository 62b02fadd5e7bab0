import BlockAccess.Deployment.Tasks
import BlockAccess.Proofs.Deployment.Distribution
import BlockAccess.Proofs.Exchange.Agreement
import Mathlib.Logic.Relation

/-!
# Ticks of a task

A tick asks the master for a rotation and hands its keys over, if they have to be handed over. It is
not done at once. The rotation, the export and the import at each of the targets are separate calls,
and between two of them clocks move, tokens are minted and checked, and other tasks tick. So where a
task stands in its tick is a `Phase`, and `TaskStep` lists the steps that it can take, one call in
each. What can be seen of a tick from outside is a `Turn`: when it took place, what the master
answered, and what was handed over, with the outcome. A `Course` is what a task has come to.

`TaskRun` is a run of steps of one task with changes in between, within a tick as well as between
two of them. Which changes these may be is left to a relation. If there are none within a tick, its
steps come to what `tick` does; `TickEffect` lists what that can be.

## Main results

* `tickEffect_tick` — a tick of a task that has not ended has one of the listed effects.
* `steps_tick` — it is made up of the steps of the task, one after the other.
* `polled_of_run` — what a request for a rotation does to a deployment with its master.
-/

namespace BlockAccess

/-- Keys that were handed over for delivery, and what came of it. -/
structure Handover where
  keys : KeyExport
  outcome : DeliveryOutcome
  deriving DecidableEq, Repr

/-- **What can be seen of a tick.** -/
structure Turn where
  /-- What the clock of the master showed. -/
  time : Instant
  /-- What the master answered when it was asked for a rotation. -/
  rotation : Except AccessError Bool
  /-- The keys that were handed over; a tick hands over once at most. -/
  handover? : Option Handover
  deriving Repr

namespace Deployment

variable {d d' d₁ : Deployment} {t : TaskRef} {task task' : RotationTask} {turn : Turn}
  {r : ManagerRef}

/-! ## The parts of a tick -/

/-- The deployment with more in its log and with a task put back. -/
def settle (d : Deployment) (events : List Event) (t : TaskRef) (task : RotationTask) :
    Deployment :=
  { d with log := d.log ++ events.toArray, tasks := d.tasks.setIfInBounds t.index task }

/-- What is reported of a delivery. -/
def deliveryEvents (keys : KeyExport) : DeliveryOutcome → List Event
  | .accepted => [.delivered keys.keyIds]
  | .refused e => [.deliveryFailed e]
  | .brokeDown => []

/-- The task after the answer of the master. -/
def afterAnswer (task : RotationTask) (rotation : Except AccessError Bool) : RotationTask :=
  { task with progress := task.progress.afterRotation rotation }

theorem run_rotateIfDue (r : ManagerRef) (d : Deployment) :
    (rotateIfDue r).run d =
      let done := (d.manager r).rotateIfDue (d.now r) d.entropy
      (done.result, { d.withManager r done.manager with
        entropy := done.entropy
        log := d.log ++ done.events.toArray }) := rfl

/-- A request for a rotation leaves the tasks and all other managers alone. -/
theorem frame_of_rotateIfDue {rotation : Except AccessError Bool}
    (h : (rotateIfDue r).run d = (rotation, d₁)) :
    d₁.tasks = d.tasks ∧ ∀ q, q ≠ r → d₁.manager q = d.manager q := by
  rw [run_rotateIfDue] at h
  cases h
  exact ⟨rfl, fun q hq => congrArg Member.manager (member_withManager_of_ne hq _)⟩

/-- Nothing is delivered for a task that has ended or has no keys to deliver. -/
theorem run_deliverPending_of_idle
    (h : (task.progress.isFinished || !task.progress.pending) = true) (d : Deployment) :
    (deliverPending task).run d = (task, d) := by
  rw [deliverPending, if_pos h]
  rfl

theorem run_get_bind {α : Type} (f : Deployment → Deploy α) (d : Deployment) :
    (get >>= f).run d = (f d).run d := rfl

theorem run_deliverPending
    (h : (task.progress.isFinished || !task.progress.pending) = false) (d : Deployment) :
    (deliverPending task).run d =
      match (d.manager task.manager).exportKeys with
      | .error e => ({ task with progress := task.progress.finish (.error e) }, d)
      | .ok keys =>
        match (deliver task keys).run d with
        | ((outcome, task'), d') =>
          ({ task' with progress := task'.progress.afterDelivery outcome },
            { d' with log := d'.log ++ (deliveryEvents keys outcome).toArray }) := by
  rw [deliverPending, if_neg (by simp [h]), run_get_bind]
  cases (d.manager task.manager).exportKeys with
  | error e => rfl
  | ok keys =>
    rcases hdeliver : (deliver task keys).run d with ⟨⟨outcome, task'⟩, d'⟩
    simp only [hdeliver]
    rw [run_bind_of_eq hdeliver]
    cases outcome with
    | accepted => rfl
    | refused e => rfl
    | brokeDown =>
      rw [deliveryEvents, Array.append_empty]
      rfl

/-- A reference without a task, or with one that has ended, does not tick. -/
theorem run_tick_of_finished
    (h : ∀ task, d.tasks[t.index]? = some task → task.progress.isFinished = true) :
    (tick t).run d = ((), d) := by
  rw [tick, run_get_bind]
  cases htask : d.tasks[t.index]? with
  | none => rfl
  | some task =>
    simp only [h task htask, if_true]
    rfl

/-- The refusal of a rotation ends the task. -/
private theorem run_tick_of_error (htask : d.tasks[t.index]? = some task)
    (hrunning : task.progress.isFinished = false) {error : AccessError}
    (hrotation : (rotateIfDue task.manager).run d = (.error error, d₁)) :
    (tick t).run d
      = ((), d₁.settle [.rotationStopped error] t (afterAnswer task (.error error))) := by
  rw [tick, run_get_bind, htask]
  simp only [hrunning, Bool.false_eq_true, if_false]
  rw [run_bind_of_eq hrotation]
  rfl

/-- Otherwise the tick goes on with the delivery. -/
private theorem run_tick_of_ok (htask : d.tasks[t.index]? = some task)
    (hrunning : task.progress.isFinished = false) {rotated : Bool}
    (hrotation : (rotateIfDue task.manager).run d = (.ok rotated, d₁)) :
    (tick t).run d
      = (deliverPending (afterAnswer task (.ok rotated)) >>= setTask t).run d₁ := by
  rw [tick, run_get_bind, htask]
  simp only [hrunning, Bool.false_eq_true, if_false]
  rw [run_bind_of_eq hrotation]
  rfl

/-- Whether there is nothing to deliver after the answer of the master. -/
private theorem idle_afterAnswer (hrunning : task.progress.isFinished = false) (rotated : Bool) :
    ((afterAnswer task (.ok rotated)).progress.isFinished
      || !(afterAnswer task (.ok rotated)).progress.pending)
      = !(task.progress.pending || rotated) := by
  have hsame : (afterAnswer task (.ok rotated)).progress.isFinished = false := hrunning
  rw [hsame, Bool.false_or]
  rfl

/-! ## The effects of a tick -/

/-- **Everything that a tick can do** to a deployment `d` in which the task of `t` is `task`: the
turn that can be seen of it, and the deployment that it leaves. -/
inductive TickEffect (d : Deployment) (t : TaskRef) (task : RotationTask) :
    Turn → Deployment → Prop
  | stopped {error : AccessError} {d₁ : Deployment}
      (hrotation : (rotateIfDue task.manager).run d = (.error error, d₁)) :
      TickEffect d t task ⟨d.now task.manager, .error error, none⟩
        (d₁.settle [.rotationStopped error] t (afterAnswer task (.error error)))
  | quiet {rotated : Bool} {d₁ : Deployment}
      (hrotation : (rotateIfDue task.manager).run d = (.ok rotated, d₁))
      (hpending : (task.progress.pending || rotated) = false) :
      TickEffect d t task ⟨d.now task.manager, .ok rotated, none⟩
        (d₁.settle [] t (afterAnswer task (.ok rotated)))
  | keyless {rotated : Bool} {error : AccessError} {d₁ : Deployment}
      (hrotation : (rotateIfDue task.manager).run d = (.ok rotated, d₁))
      (hpending : (task.progress.pending || rotated) = true)
      (hkeys : (d₁.manager task.manager).exportKeys = .error error) :
      TickEffect d t task ⟨d.now task.manager, .ok rotated, none⟩
        (d₁.settle [] t { afterAnswer task (.ok rotated) with
          progress := (afterAnswer task (.ok rotated)).progress.finish (.error error) })
  | handedOver {rotated : Bool} {keys : KeyExport} {outcome : DeliveryOutcome}
      {task' : RotationTask} {d₁ d₂ : Deployment}
      (hrotation : (rotateIfDue task.manager).run d = (.ok rotated, d₁))
      (hpending : (task.progress.pending || rotated) = true)
      (hkeys : (d₁.manager task.manager).exportKeys = .ok keys)
      (hdeliver :
        (deliver (afterAnswer task (.ok rotated)) keys).run d₁ = ((outcome, task'), d₂)) :
      TickEffect d t task ⟨d.now task.manager, .ok rotated, some ⟨keys, outcome⟩⟩
        (d₂.settle (deliveryEvents keys outcome) t
          { task' with progress := task'.progress.afterDelivery outcome })

private theorem settle_nil (d : Deployment) (t : TaskRef) (task : RotationTask) :
    d.settle [] t task = { d with tasks := d.tasks.setIfInBounds t.index task } := by
  rw [settle, Array.append_empty]

/-- **A tick of a task that has not ended has one of the listed effects.** -/
theorem tickEffect_tick (htask : d.tasks[t.index]? = some task)
    (hrunning : task.progress.isFinished = false) :
    ∃ turn, TickEffect d t task turn ((tick t).run d).2 := by
  rcases hrotation : (rotateIfDue task.manager).run d with ⟨error | rotated, d₁⟩
  · rw [run_tick_of_error htask hrunning hrotation]
    exact ⟨_, .stopped hrotation⟩
  rw [run_tick_of_ok htask hrunning hrotation]
  have hidle := idle_afterAnswer hrunning rotated
  cases hpending : task.progress.pending || rotated with
  | false =>
    rw [hpending] at hidle
    have hquiet : TickEffect d t task _ _ := .quiet hrotation hpending
    rw [settle_nil] at hquiet
    rw [run_bind_of_eq (run_deliverPending_of_idle hidle d₁)]
    exact ⟨_, hquiet⟩
  | true =>
    rw [hpending] at hidle
    have hmanager : (afterAnswer task (.ok rotated)).manager = task.manager := rfl
    have hrun := run_deliverPending hidle d₁
    rw [hmanager] at hrun
    cases hkeys : (d₁.manager task.manager).exportKeys with
    | error error =>
      have hkeyless : TickEffect d t task _ _ := .keyless hrotation hpending hkeys
      rw [settle_nil] at hkeyless
      rw [hkeys] at hrun
      rw [run_bind_of_eq hrun]
      exact ⟨_, hkeyless⟩
    | ok keys =>
      rcases hdeliver : (deliver (afterAnswer task (.ok rotated)) keys).run d₁ with
        ⟨⟨outcome, task'⟩, d₂⟩
      simp only [hkeys, hdeliver] at hrun
      rw [run_bind_of_eq hrun]
      exact ⟨_, .handedOver hrotation hpending hkeys hdeliver⟩

/-- **All that a tick can be:** nothing, or a tick with an effect. -/
theorem tick_cases (t : TaskRef) (d : Deployment) :
    ((tick t).run d).2 = d ∨ ∃ task, d.tasks[t.index]? = some task ∧
      task.progress.isFinished = false ∧ ∃ turn, TickEffect d t task turn ((tick t).run d).2 := by
  by_cases hrunning : ∃ task, d.tasks[t.index]? = some task ∧ task.progress.isFinished = false
  · obtain ⟨task, htask, hrunning⟩ := hrunning
    exact .inr ⟨task, htask, hrunning, tickEffect_tick htask hrunning⟩
  · refine .inl ?_
    rw [run_tick_of_finished]
    intro task htask
    by_cases hfinished : task.progress.isFinished = true
    · exact hfinished
    · exact absurd ⟨task, htask, Bool.eq_false_iff.2 hfinished⟩ hrunning

end Deployment

/-! ## The steps of a tick -/

/-- **Where a task stands in its tick.** Until the tick is over, the task goes by what it has made
of the answer of its master. -/
inductive Phase
  /-- Between two ticks. -/
  | resting
  /-- The master has answered, and there are keys to deliver. -/
  | exporting (task : RotationTask)
  /-- They are delivered straight to the targets, some of which are left. -/
  | delivering (task : RotationTask) (keys : KeyExport) (left : List Target)

/-- **What a task has come to:** the turns that it has made, the newest first, where it stands, and
the deployment around it. The turn of a tick that is not over has handed nothing over so far. -/
structure Course where
  turns : List Turn
  phase : Phase
  deployment : Deployment

namespace Course

/-- The course of a task before its first tick. -/
def start (d : Deployment) : Course := ⟨[], .resting, d⟩

/-- The course of a task after a delivery that has come back, which ends the tick. -/
def cameBack (t : TaskRef) (time : Instant) (rotation : Except AccessError Bool)
    (earlier : List Turn) (task : RotationTask) (keys : KeyExport) (outcome : DeliveryOutcome)
    (d : Deployment) : Course :=
  ⟨⟨time, rotation, some ⟨keys, outcome⟩⟩ :: earlier, .resting,
    d.settle (Deployment.deliveryEvents keys outcome) t
      { task with progress := task.progress.afterDelivery outcome }⟩

end Course

open Deployment in
/-- **The steps of the task of `t`.** Each makes one call, which asks for a rotation, for the keys
of the master, or for their import at one target. A channel that does not go straight to the targets
is called as a whole. -/
inductive TaskStep (t : TaskRef) : Course → Course → Prop
  | stopped {turns : List Turn} {d d₁ : Deployment} {task : RotationTask} {error : AccessError}
      (htask : d.tasks[t.index]? = some task) (hrunning : task.progress.isFinished = false)
      (hrotation : (rotateIfDue task.manager).run d = (.error error, d₁)) :
      TaskStep t ⟨turns, .resting, d⟩
        ⟨⟨d.now task.manager, .error error, none⟩ :: turns, .resting,
          d₁.settle [.rotationStopped error] t (afterAnswer task (.error error))⟩
  | quiet {turns : List Turn} {d d₁ : Deployment} {task : RotationTask} {rotated : Bool}
      (htask : d.tasks[t.index]? = some task) (hrunning : task.progress.isFinished = false)
      (hrotation : (rotateIfDue task.manager).run d = (.ok rotated, d₁))
      (hpending : (task.progress.pending || rotated) = false) :
      TaskStep t ⟨turns, .resting, d⟩
        ⟨⟨d.now task.manager, .ok rotated, none⟩ :: turns, .resting,
          d₁.settle [] t (afterAnswer task (.ok rotated))⟩
  | answered {turns : List Turn} {d d₁ : Deployment} {task : RotationTask} {rotated : Bool}
      (htask : d.tasks[t.index]? = some task) (hrunning : task.progress.isFinished = false)
      (hrotation : (rotateIfDue task.manager).run d = (.ok rotated, d₁))
      (hpending : (task.progress.pending || rotated) = true) :
      TaskStep t ⟨turns, .resting, d⟩
        ⟨⟨d.now task.manager, .ok rotated, none⟩ :: turns,
          .exporting (afterAnswer task (.ok rotated)), d₁⟩
  | keyless {turns : List Turn} {d : Deployment} {task : RotationTask} {error : AccessError}
      (hkeys : (d.manager task.manager).exportKeys = .error error) :
      TaskStep t ⟨turns, .exporting task, d⟩
        ⟨turns, .resting, d.settle [] t
          { task with progress := task.progress.finish (.error error) }⟩
  | exported {turns : List Turn} {d : Deployment} {task : RotationTask} {keys : KeyExport}
      {targets : List Target} (hkeys : (d.manager task.manager).exportKeys = .ok keys)
      (hchannel : task.channel = .direct targets) :
      TaskStep t ⟨turns, .exporting task, d⟩ ⟨turns, .delivering task keys targets, d⟩
  | rehearsed {time : Instant} {rotation : Except AccessError Bool} {earlier : List Turn}
      {d d₁ : Deployment} {task task' : RotationTask} {keys : KeyExport} {outcome : DeliveryOutcome}
      (hkeys : (d.manager task.manager).exportKeys = .ok keys)
      (hchannel : ∀ targets, task.channel ≠ .direct targets)
      (hdeliver : (deliver task keys).run d = ((outcome, task'), d₁)) :
      TaskStep t ⟨⟨time, rotation, none⟩ :: earlier, .exporting task, d⟩
        (.cameBack t time rotation earlier task' keys outcome d₁)
  | imported {turns : List Turn} {d d₁ : Deployment} {task : RotationTask} {keys : KeyExport}
      {target : Target} {left : List Target}
      (himport : (importAt keys target).run d = (.ok (), d₁)) :
      TaskStep t ⟨turns, .delivering task keys (target :: left), d⟩
        ⟨turns, .delivering task keys left, d₁⟩
  | refused {time : Instant} {rotation : Except AccessError Bool} {earlier : List Turn}
      {d d₁ : Deployment} {task : RotationTask} {keys : KeyExport} {target : Target}
      {left : List Target} {error : AccessError}
      (himport : (importAt keys target).run d = (.error error, d₁)) :
      TaskStep t ⟨⟨time, rotation, none⟩ :: earlier, .delivering task keys (target :: left), d⟩
        (.cameBack t time rotation earlier task keys (.refused error) d₁)
  | accepted {time : Instant} {rotation : Except AccessError Bool} {earlier : List Turn}
      {d : Deployment} {task : RotationTask} {keys : KeyExport} :
      TaskStep t ⟨⟨time, rotation, none⟩ :: earlier, .delivering task keys [], d⟩
        (.cameBack t time rotation earlier task keys .accepted d)

namespace Deployment

variable {d d' d₁ : Deployment} {t : TaskRef} {task : RotationTask} {turn : Turn} {r : ManagerRef}

/-- A delivery straight to the targets goes through the imports one after the other. -/
private theorem steps_distribute (t : TaskRef) (time : Instant)
    (rotation : Except AccessError Bool) (earlier : List Turn) (task : RotationTask)
    (keys : KeyExport) (targets : List Target) (d : Deployment) :
    Relation.ReflTransGen (TaskStep t)
      ⟨⟨time, rotation, none⟩ :: earlier, .delivering task keys targets, d⟩
      (.cameBack t time rotation earlier task keys (outcomeOf ((distribute keys targets).run d).1)
        ((distribute keys targets).run d).2) := by
  induction targets generalizing d with
  | nil => exact .single .accepted
  | cons target rest ih =>
    rcases hrun : (importAt keys target).run d with ⟨error | _, d₁⟩
    · rw [run_distribute_of_refused hrun]
      exact .single (.refused hrun)
    · rw [run_distribute_of_accepted hrun]
      exact .head (.imported hrun) (ih d₁)

/-- The steps of a tick between which nothing else happens. -/
theorem TickEffect.steps (h : TickEffect d t task turn d') (htask : d.tasks[t.index]? = some task)
    (hrunning : task.progress.isFinished = false) (turns : List Turn) :
    Relation.ReflTransGen (TaskStep t) ⟨turns, .resting, d⟩ ⟨turn :: turns, .resting, d'⟩ := by
  cases h with
  | stopped hrotation => exact .single (.stopped htask hrunning hrotation)
  | quiet hrotation hpending => exact .single (.quiet htask hrunning hrotation hpending)
  | keyless hrotation hpending hkeys =>
    exact .head (.answered htask hrunning hrotation hpending) (.single (.keyless hkeys))
  | @handedOver rotated keys outcome task' d₁ d₂ hrotation hpending hkeys hdeliver =>
    refine .head (.answered htask hrunning hrotation hpending) ?_
    cases hchannel : (afterAnswer task (.ok rotated)).channel with
    | direct targets =>
      rw [run_deliver_direct hchannel] at hdeliver
      cases hdeliver
      exact .head (.exported hkeys hchannel) (steps_distribute ..)
    | rehearsed plan target? =>
      refine .single (.rehearsed hkeys (fun targets hdirect => ?_) hdeliver)
      rw [hchannel] at hdirect
      cases hdirect

/-- **A tick of a task that has not ended is made up of its steps.** -/
theorem steps_tick (htask : d.tasks[t.index]? = some task)
    (hrunning : task.progress.isFinished = false) (turns : List Turn) :
    ∃ turn, Relation.ReflTransGen (TaskStep t) ⟨turns, .resting, d⟩
      ⟨turn :: turns, .resting, ((tick t).run d).2⟩ := by
  obtain ⟨turn, heffect⟩ := tickEffect_tick htask hrunning
  exact ⟨turn, heffect.steps htask hrunning turns⟩

/-- **The turn of a tick that hands keys over** can be read off the calls that it makes. -/
private theorem TickEffect.turn_of_deliver {rotated : Bool} {keys : KeyExport}
    {outcome : DeliveryOutcome} (h : TickEffect d t task turn d')
    (hrotation : ((rotateIfDue task.manager).run d).1 = .ok rotated)
    (hpending : (task.progress.pending || rotated) = true)
    (hkeys : (((rotateIfDue task.manager).run d).2.manager task.manager).exportKeys = .ok keys)
    (hdeliver : ((deliver (afterAnswer task (.ok rotated)) keys).run
      ((rotateIfDue task.manager).run d).2).1.1 = outcome) :
    turn = ⟨d.now task.manager, .ok rotated, some ⟨keys, outcome⟩⟩ := by
  cases h with
  | stopped hrotation' =>
    rw [hrotation'] at hrotation
    cases hrotation
  | quiet hrotation' hidle =>
    rw [hrotation'] at hrotation
    cases hrotation
    rw [hidle] at hpending
    cases hpending
  | keyless hrotation' _ hkeys' =>
    rw [hrotation', hkeys'] at hkeys
    cases hkeys
  | handedOver hrotation' _ hkeys' hdeliver' =>
    rw [hrotation'] at hrotation hkeys hdeliver
    cases hrotation
    rw [hkeys'] at hkeys
    cases hkeys
    rw [hdeliver'] at hdeliver
    cases hdeliver
    rfl

/-- A tick that hands keys over is made up of its steps, and its turn is known. -/
theorem steps_tick_of_deliver {rotated : Bool} {keys : KeyExport} {outcome : DeliveryOutcome}
    (htask : d.tasks[t.index]? = some task) (hrunning : task.progress.isFinished = false)
    (hrotation : ((rotateIfDue task.manager).run d).1 = .ok rotated)
    (hpending : (task.progress.pending || rotated) = true)
    (hkeys : (((rotateIfDue task.manager).run d).2.manager task.manager).exportKeys = .ok keys)
    (hdeliver : ((deliver (afterAnswer task (.ok rotated)) keys).run
      ((rotateIfDue task.manager).run d).2).1.1 = outcome) (turns : List Turn) :
    Relation.ReflTransGen (TaskStep t) ⟨turns, .resting, d⟩
      ⟨⟨d.now task.manager, .ok rotated, some ⟨keys, outcome⟩⟩ :: turns, .resting,
        ((tick t).run d).2⟩ := by
  obtain ⟨turn, heffect⟩ := tickEffect_tick htask hrunning
  obtain rfl := heffect.turn_of_deliver hrotation hpending hkeys hdeliver
  exact heffect.steps htask hrunning turns

/-! ## The answer of the master -/

/-- **All that a request for a rotation does to a deployment:** the manager is what its own answer
makes of it. -/
structure Polled (d : Deployment) (r : ManagerRef) (rotation : Except AccessError Bool)
    (d₁ : Deployment) : Prop extends SameSetup d d₁ where
  tasks : d₁.tasks = d.tasks
  result : (RotationCall.rotateIfDue.run (d.manager r) (d.now r) d.entropy).result = rotation
  manager : d₁.manager r
    = (RotationCall.rotateIfDue.run (d.manager r) (d.now r) d.entropy).manager
  others (q : ManagerRef) (hq : q ≠ r) : d₁.manager q = d.manager q

/-- A master has a place in the table of managers. -/
private theorem lt_size_of_master (hrole : (d.manager r).role = .master) :
    r.index < d.members.size := by
  refine lt_size_of_manager_ne fun hdefault => ?_
  rw [hdefault] at hrole
  cases hrole

theorem polled_of_run {rotation : Except AccessError Bool}
    (hrole : (d.manager r).role = .master)
    (hrotation : (rotateIfDue r).run d = (rotation, d₁)) : Polled d r rotation d₁ := by
  obtain ⟨htasks, hothers⟩ := frame_of_rotateIfDue hrotation
  rw [run_rotateIfDue] at hrotation
  cases hrotation
  exact
    { systemTime := rfl
      clocks := rfl
      registries := rfl
      time := fun q => time_withManager d r q _
      tasks := htasks
      result := rfl
      manager := manager_withManager (lt_size_of_master hrole) _
      others := hothers }

/-- A master is one as before after it was asked for a rotation. -/
theorem Polled.masterWindow {s : Settings} {rotation : Except AccessError Bool}
    {current next : BlockKey} (h : Polled d r rotation d₁)
    (hmaster : MasterWindow s (d.manager r) current next) :
    ∃ current next, MasterWindow s (d₁.manager r) current next := by
  rw [h.manager]
  exact hmaster.call .rotateIfDue (d.now r) d.entropy

theorem SameSetup.settle (h : SameSetup d d₁) (events : List Event) (t : TaskRef)
    (task : RotationTask) : SameSetup d (d₁.settle events t task) :=
  ⟨h.systemTime, h.clocks, h.registries, h.time⟩

theorem tasks_settle (h : t.index < d.tasks.size) (events : List Event) (task : RotationTask) :
    (d.settle events t task).tasks[t.index]? = some task := by
  rw [settle, Array.getElem?_setIfInBounds_self_of_lt h]

end Deployment

/-! ## Runs -/

/-- **A run of steps of a task** that has come to `x`, with changes of the deployment in between. -/
inductive TaskRun (between : Deployment → Deployment → Prop) (t : TaskRef) (x : Course) :
    Course → Prop
  | start : TaskRun between t x x
  | step {y z : Course} (hrun : TaskRun between t x y) (hstep : TaskStep t y z) :
      TaskRun between t x z
  | meanwhile {y : Course} {d : Deployment} (hrun : TaskRun between t x y)
      (hbetween : between y.deployment d) : TaskRun between t x { y with deployment := d }

namespace TaskRun

variable {between : Deployment → Deployment → Prop} {t : TaskRef} {x y z : Course}

/-- A run may go on with several steps at once. -/
theorem steps (hrun : TaskRun between t x y) (hsteps : Relation.ReflTransGen (TaskStep t) y z) :
    TaskRun between t x z := by
  induction hsteps with
  | refl => exact hrun
  | tail _ hstep ih => exact ih.step hstep

/-- Runs can be put together. -/
theorem trans (hrun : TaskRun between t x y) (hrest : TaskRun between t y z) :
    TaskRun between t x z := by
  induction hrest with
  | start => exact hrun
  | step _ hstep ih => exact ih.step hstep
  | meanwhile _ hbetween ih => exact ih.meanwhile hbetween

end TaskRun

end BlockAccess
