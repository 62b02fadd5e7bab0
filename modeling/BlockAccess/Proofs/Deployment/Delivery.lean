import BlockAccess.Proofs.Deployment.Tick

/-!
# Every window is delivered once

A task remembers one thing from tick to tick: whether keys have to be delivered. It must neither
forget a delivery that failed nor repeat one that was accepted, while the master may rotate again
before the last keys have got through. What it should remember can be read off the turns that it has
made: there is a backlog if nothing has been accepted since the keys last changed, that is, since
the last turn that rotated them, or since the task began. The proof is that the two agree.

Where there is no backlog, the export that was accepted last is what the master holds, since a
rotation would have made a new backlog. So the keys that are handed over are always the present
ones, and none are handed over twice.

## Main results

* `Delivering.step` — a step keeps what the task remembers in step with its turns.
* `delivers_every_window` — after every run either the last accepted export is that of the master,
  or there is a backlog and the next tick hands over what the master holds then.
-/

namespace BlockAccess

/-! ## Reading the turns -/

namespace Turn

/-- Whether the keys were rotated. -/
def rotated (turn : Turn) : Bool :=
  match turn.rotation with
  | .ok rotated => rotated
  | .error _ => false

/-- The export that was handed over and accepted. -/
def accepted? (turn : Turn) : Option KeyExport :=
  turn.handover?.bind fun handover =>
    if handover.outcome = .accepted then some handover.keys else none

/-- How the turn ended the task, if it did. -/
def ending? (turn : Turn) : Option (Except AccessError Unit) :=
  match turn.rotation, turn.handover? with
  | .error e, _ => some (.error e)
  | .ok _, some ⟨_, .brokeDown⟩ => some (.error (.rotation .taskIncomplete))
  | .ok _, _ => none

/-- A turn ends the task only by the refusal of a rotation or by a delivery that does not come
back. -/
theorem ending?_eq_none {turn : Turn} {rotated : Bool} (h : turn.rotation = .ok rotated)
    (hback : ∀ handover, turn.handover? = some handover → handover.outcome ≠ .brokeDown) :
    turn.ending? = none := by
  rw [ending?, h]
  cases hhandover : turn.handover? with
  | none => rfl
  | some handover =>
    obtain ⟨keys, outcome⟩ := handover
    cases outcome with
    | accepted => rfl
    | refused error => rfl
    | brokeDown => exact absurd rfl (hback _ hhandover)

/-- The export that was accepted last. The turns are given newest first. -/
def lastAccepted? (turns : List Turn) : Option KeyExport := turns.findSome? accepted?

/-- The turns since the last rotation, with the turn that made it. -/
def sinceRotation : List Turn → List Turn
  | [] => []
  | turn :: earlier => if turn.rotated then [turn] else turn :: sinceRotation earlier

/-- **No delivery has been accepted** since the last rotation, or since the beginning. -/
def Backlog (turns : List Turn) : Prop := ∀ turn ∈ sinceRotation turns, turn.accepted? = none

instance (turns : List Turn) : Decidable (Backlog turns) :=
  inferInstanceAs (Decidable (∀ turn ∈ sinceRotation turns, turn.accepted? = none))

theorem backlog_nil : Backlog [] := fun _ hmem => absurd hmem List.not_mem_nil

theorem backlog_cons {turn : Turn} {turns : List Turn} :
    Backlog (turn :: turns) ↔
      turn.accepted? = none ∧ (turn.rotated = true ∨ Backlog turns) := by
  by_cases hrotated : turn.rotated = true
  · simp [Backlog, sinceRotation, hrotated]
  · simp [Backlog, sinceRotation, hrotated]

theorem lastAccepted?_cons (turn : Turn) (turns : List Turn) :
    lastAccepted? (turn :: turns) = turn.accepted?.or (lastAccepted? turns) := by
  rw [lastAccepted?, List.findSome?_cons]
  cases turn.accepted? <;> rfl

/-- **What a turn that is over has to have done.** It hands keys over if the master has rotated or
there was a backlog, and not otherwise, and they are those of the master. -/
structure Fulfilled (turn : Turn) (earlier : List Turn) (m : Manager) : Prop where
  refused (error : AccessError) (h : turn.rotation = .error error) : turn.handover? = none
  handover_isSome (rotated : Bool) (h : turn.rotation = .ok rotated) :
    turn.handover?.isSome = true ↔ rotated = true ∨ Backlog earlier
  keys (handover : Handover) (h : turn.handover? = some handover) :
    m.exportKeys = .ok handover.keys

end Turn

/-- What a task goes by in its tick, if it is under way. -/
def Phase.task? : Phase → Option RotationTask
  | .resting => none
  | .exporting task => some task
  | .delivering task _ _ => some task

/-! ## The invariant -/

namespace Deployment

open Turn

variable {d d' d₁ : Deployment} {t : TaskRef} {r : ManagerRef} {turn : Turn}
  {turns earlier : List Turn} {s : Settings} {x y : Course} {phase : Phase} {task : RotationTask}

/-- **A change that is no business of the task:** it keeps its master and its progress, and the
master stays as it is. Clocks, entropy, the channel of the task and everything else may change. -/
def Elsewhere (t : TaskRef) (d d' : Deployment) : Prop :=
  ∀ task, d.tasks[t.index]? = some task → ∃ task', d'.tasks[t.index]? = some task' ∧
    task'.manager = task.manager ∧ task'.progress = task.progress ∧
    d'.manager task.manager = d.manager task.manager

/-- **A tick that is under way:** the task goes by `task`, and its newest turn, which has handed
nothing over so far, has rotated or come upon a backlog. -/
structure UnderWay (r : ManagerRef) (turns : List Turn) (task : RotationTask) : Prop where
  manager : task.manager = r
  progress : task.progress = ⟨true, none⟩
  turn : ∃ time rotated earlier, turns = ⟨time, .ok rotated, none⟩ :: earlier ∧
    (rotated = true ∨ Backlog earlier)

/-- **What is true of a task** of the master `r` at all times. -/
structure Delivering (s : Settings) (t : TaskRef) (r : ManagerRef) (x : Course) : Prop where
  entry : ∃ task, x.deployment.tasks[t.index]? = some task ∧ task.manager = r ∧
    (x.phase = .resting → (task.progress.pending = true ↔ Backlog x.turns) ∧
      task.progress.ending? = x.turns.head?.bind Turn.ending?)
  master : ∃ current next, MasterWindow s (x.deployment.manager r) current next
  delivered : Backlog x.turns ∨
    ∃ e, (x.deployment.manager r).exportKeys = .ok e ∧ lastAccepted? x.turns = some e
  underWay (task : RotationTask) (h : x.phase.task? = some task) : UnderWay r x.turns task
  keys (task : RotationTask) (keys : KeyExport) (left : List Target)
    (h : x.phase = .delivering task keys left) : (x.deployment.manager r).exportKeys = .ok keys
  fulfilled (hover : x.phase = .resting) (turn : Turn) (earlier : List Turn)
    (h : x.turns = turn :: earlier) : turn.Fulfilled earlier (x.deployment.manager r)

/-- While a tick is under way, there is a backlog. -/
theorem UnderWay.backlog (h : UnderWay r turns task) : Backlog turns := by
  obtain ⟨time, rotated, earlier, rfl, hbusy⟩ := h.turn
  exact backlog_cons.2 ⟨rfl, hbusy⟩

namespace Delivering

theorem taskEnding? (h : Delivering s t r x) (hover : x.phase = .resting) :
    x.deployment.taskEnding? t = x.turns.head?.bind Turn.ending? := by
  obtain ⟨task, htask, -, hprogress⟩ := h.entry
  rw [Deployment.taskEnding?, htask]
  exact (hprogress hover).2

/-- Between two ticks, a task that has not ended goes on with the steps of the next tick. -/
theorem steps_tick (h : Delivering s t r x) (hover : x.phase = .resting)
    (hnone : x.deployment.taskEnding? t = none) :
    ∃ turn, Relation.ReflTransGen (TaskStep t) x
      ⟨turn :: x.turns, .resting, ((tick t).run x.deployment).2⟩ := by
  obtain ⟨task, htask, -⟩ := h.entry
  have hrunning : task.progress.isFinished = false := by
    rw [Deployment.taskEnding?, htask] at hnone
    rw [TaskProgress.isFinished, show task.progress.ending? = none from hnone]
    rfl
  obtain ⟨turns, phase, d⟩ := x
  obtain rfl : phase = .resting := hover
  exact Deployment.steps_tick htask hrunning turns

/-- The task of a tick is the one in the table. -/
theorem of_resting (h : Delivering s t r ⟨turns, .resting, d⟩)
    (htask : d.tasks[t.index]? = some task) :
    t.index < d.tasks.size ∧ task.manager = r ∧
      (task.progress.pending = true ↔ Backlog turns) := by
  obtain ⟨task', htask', hmanager, hprogress⟩ := h.entry
  obtain rfl : task = task' := Option.some.inj (htask.symm.trans htask')
  exact ⟨(Array.getElem?_eq_some_iff.1 htask).1, hmanager, (hprogress rfl).1⟩

/-- What was accepted last is still what the master has, unless it has rotated. -/
theorem delivered_of_polled (h : Delivering s t r ⟨turns, phase, d⟩)
    {rotation : Except AccessError Bool} (hpolled : Polled d r rotation d₁) (time : Instant) :
    Backlog (⟨time, rotation, none⟩ :: turns) ∨ ∃ e, (d₁.manager r).exportKeys = .ok e ∧
      lastAccepted? (⟨time, rotation, none⟩ :: turns) = some e := by
  obtain ⟨current, next, hmaster⟩ := h.master
  rw [backlog_cons, lastAccepted?_cons]
  by_cases hrotated : (⟨time, rotation, none⟩ : Turn).rotated = true
  · exact .inl ⟨rfl, .inl hrotated⟩
  have hresult : (RotationCall.rotateIfDue.run (d.manager r) (d.now r) d.entropy).result
      ≠ .ok true := by
    intro hok
    rw [hpolled.result] at hok
    exact hrotated (by rw [rotated, hok])
  rcases h.delivered with hbacklog | ⟨e, hexport, hlast⟩
  · exact .inl ⟨rfl, .inr hbacklog⟩
  · refine .inr ⟨e, ?_, hlast⟩
    rw [Manager.exportKeys, hpolled.manager, hmaster.window_eq hresult]
    exact hexport

/-- A tick that is over with the answer of the master, as there is nothing to hand over. -/
private theorem over_of_polled (h : Delivering s t r ⟨turns, .resting, d⟩)
    (htask : d.tasks[t.index]? = some task) {rotation : Except AccessError Bool}
    (hpolled : Polled d r rotation d₁)
    (hidle : ∀ rotated, rotation = .ok rotated → (task.progress.pending || rotated) = false)
    (hrunning : task.progress.isFinished = false) (events : List Event) (time : Instant) :
    Delivering s t r ⟨⟨time, rotation, none⟩ :: turns, .resting,
      d₁.settle events t (afterAnswer task rotation)⟩ := by
  obtain ⟨hsize, hmanager, hpending⟩ := h.of_resting htask
  have hnone : task.progress.ending? = none :=
    Option.isNone_iff_eq_none.1 (Option.isSome_eq_false_iff.1 hrunning)
  obtain ⟨current, next, hmaster⟩ := h.master
  refine ⟨⟨afterAnswer task rotation, tasks_settle (hpolled.tasks ▸ hsize) .., hmanager, ?_⟩,
    hpolled.masterWindow hmaster, h.delivered_of_polled hpolled time, fun _ hway => (nomatch hway),
    fun _ _ _ hway => (nomatch hway), ?_⟩
  · rintro -
    rw [backlog_cons]
    cases rotation with
    | error error =>
      exact ⟨by simp [afterAnswer, TaskProgress.afterRotation, TaskProgress.finish, accepted?,
        rotated, hpending], rfl⟩
    | ok rotated =>
      obtain ⟨hclear, rfl⟩ := Bool.or_eq_false_iff.1 (hidle rotated rfl)
      exact ⟨by simp [afterAnswer, TaskProgress.afterRotation, accepted?, Turn.rotated, ← hpending,
        hclear], hnone⟩
  · rintro - turn earlier ⟨⟩
    refine ⟨fun _ _ => rfl, ?_, fun _ hover => nomatch hover⟩
    rintro rotated ⟨⟩
    obtain ⟨hclear, rfl⟩ := Bool.or_eq_false_iff.1 (hidle rotated rfl)
    simp [← hpending, hclear]

/-- A delivery that has come back ends the tick. -/
private theorem cameBack {time : Instant} {rotation : Except AccessError Bool}
    (h : Delivering s t r ⟨⟨time, rotation, none⟩ :: earlier, phase, d⟩)
    (hphase : phase.task? = some task) {task' : RotationTask}
    (hmanager : task'.manager = task.manager) (hprogress : task'.progress = task.progress)
    {keys : KeyExport} (hkeys : (d.manager r).exportKeys = .ok keys)
    (hsame : d₁.manager r = d.manager r) (htasks : d₁.tasks = d.tasks) (outcome : DeliveryOutcome) :
    Delivering s t r (.cameBack t time rotation earlier task' keys outcome d₁) := by
  have hway := h.underWay task hphase
  obtain ⟨entry, hentry, -⟩ := h.entry
  obtain ⟨hsize, -⟩ := Array.getElem?_eq_some_iff.1 hentry
  obtain ⟨_, rotated, _, ⟨⟩, hbusy⟩ := hway.turn
  have hexport : (d₁.manager r).exportKeys = .ok keys := hsame ▸ hkeys
  have hlocal : task'.progress = ⟨true, none⟩ := hprogress.trans hway.progress
  have hmaster : ∃ current next, MasterWindow s (d₁.manager r) current next := hsame ▸ h.master
  have hdelivered : Backlog (⟨time, .ok rotated, some ⟨keys, outcome⟩⟩ :: earlier) ∨
      ∃ e, (d₁.manager r).exportKeys = .ok e ∧
        lastAccepted? (⟨time, .ok rotated, some ⟨keys, outcome⟩⟩ :: earlier) = some e := by
    rw [backlog_cons, lastAccepted?_cons]
    by_cases haccepted : outcome = .accepted
    · exact .inr ⟨keys, hexport, by simp [accepted?, haccepted]⟩
    · exact .inl ⟨by simp [accepted?, haccepted], hbusy⟩
  refine ⟨⟨_, tasks_settle (htasks ▸ hsize) .., hmanager.trans hway.manager, ?_⟩, hmaster,
    hdelivered, fun _ hway => (nomatch hway), fun _ _ _ hway => (nomatch hway), ?_⟩
  · rintro -
    rw [Course.cameBack, backlog_cons, hlocal]
    cases outcome <;>
      simp [TaskProgress.afterDelivery, TaskProgress.finish, accepted?, Turn.ending?, Turn.rotated,
        hbusy]
  · rintro - _ _ ⟨⟩
    refine ⟨fun _ herror => (nomatch herror), ?_, ?_⟩
    · rintro _ ⟨⟩
      exact ⟨fun _ => hbusy, fun _ => rfl⟩
    · rintro handover ⟨⟩
      exact hexport

/-- A change in the middle of a tick, or of a phase into another, that keeps the master and the
tasks. -/
private theorem onTheWay (h : Delivering s t r ⟨turns, phase, d⟩)
    (hsame : d₁.manager r = d.manager r) (htasks : d₁.tasks = d.tasks) {phase' : Phase}
    (htask : phase'.task? = phase.task?) (hphase : phase.task? = some task)
    (hkeys : ∀ task keys left, phase' = .delivering task keys left →
      (d.manager r).exportKeys = .ok keys) :
    Delivering s t r ⟨turns, phase', d₁⟩ := by
  have hbusy : phase' ≠ .resting := by
    rintro rfl
    rw [hphase] at htask
    cases htask
  obtain ⟨entry, hentry, hmanager, -⟩ := h.entry
  exact
    { entry := ⟨entry, htasks ▸ hentry, hmanager, fun hover => absurd hover hbusy⟩
      master := hsame ▸ h.master
      delivered := hsame ▸ h.delivered
      underWay := fun task hway => h.underWay task (htask ▸ hway)
      keys := fun task keys left hway => hsame ▸ hkeys task keys left hway
      fulfilled := fun hover => absurd hover hbusy }

/-- An import leaves the master and the tasks alone. -/
private theorem of_imports (h : Delivering s t r ⟨turns, phase, d⟩) {keys : KeyExport}
    (himports : Imports keys d d₁) : d₁.manager r = d.manager r ∧ d₁.tasks = d.tasks := by
  obtain ⟨current, next, hmaster⟩ := h.master
  exact ⟨himports.manager_of_master hmaster.role, himports.tasks⟩

/-- **A step keeps what the task remembers in step with its turns.** -/
theorem step (h : Delivering s t r x) (hstep : TaskStep t x y) : Delivering s t r y := by
  obtain ⟨current, next, hmaster⟩ := h.master
  cases hstep with
  | @stopped turns d d₁ task error htask hrunning hrotation =>
    obtain ⟨-, rfl, -⟩ := h.of_resting htask
    exact h.over_of_polled htask (polled_of_run hmaster.role hrotation) nofun hrunning _ _
  | @quiet turns d d₁ task rotated htask hrunning hrotation hpending =>
    obtain ⟨-, rfl, -⟩ := h.of_resting htask
    refine h.over_of_polled htask (polled_of_run hmaster.role hrotation) ?_ hrunning _ _
    rintro _ ⟨⟩
    exact hpending
  | @answered turns d d₁ task rotated htask hrunning hrotation hpending =>
    obtain ⟨-, rfl, hbacklog⟩ := h.of_resting htask
    have hpolled := polled_of_run hmaster.role hrotation
    have hlocal : (afterAnswer task (.ok rotated)).progress = ⟨true, none⟩ := by
      rw [afterAnswer, TaskProgress.afterRotation, hpending,
        Option.isNone_iff_eq_none.1 (Option.isSome_eq_false_iff.1 hrunning)]
    have hbusy : rotated = true ∨ Backlog turns := by
      rcases Bool.or_eq_true_iff.1 hpending with hbefore | hrotated
      · exact .inr (hbacklog.1 hbefore)
      · exact .inl hrotated
    refine
      { entry := ⟨task, hpolled.tasks ▸ htask, rfl, fun hover => nomatch hover⟩
        master := hpolled.masterWindow hmaster
        delivered := h.delivered_of_polled hpolled _
        underWay := ?_
        keys := fun _ _ _ hway => nomatch hway
        fulfilled := fun hover => nomatch hover }
    rintro _ ⟨⟩
    exact ⟨rfl, hlocal, _, rotated, turns, rfl, hbusy⟩
  | @keyless turns d task error hkeys =>
    rw [(h.underWay task rfl).manager, hmaster.exportKeys] at hkeys
    cases hkeys
  | @exported turns d task keys targets hkeys hchannel =>
    rw [(h.underWay task rfl).manager] at hkeys
    refine h.onTheWay rfl rfl rfl rfl ?_
    rintro _ _ _ ⟨⟩
    exact hkeys
  | @rehearsed time rotation earlier d d₁ task task' keys outcome hkeys hchannel hdeliver =>
    rw [(h.underWay task rfl).manager] at hkeys
    obtain ⟨himports, hmanager, hprogress⟩ := imports_deliver task keys d
    rw [hdeliver] at himports hmanager hprogress
    obtain ⟨hsame, htasks⟩ := h.of_imports himports
    exact h.cameBack rfl hmanager hprogress hkeys hsame htasks outcome
  | @imported turns d d₁ task keys target left himport =>
    have himports := imports_importAt keys target d
    rw [himport] at himports
    obtain ⟨hsame, htasks⟩ := h.of_imports himports
    refine h.onTheWay hsame htasks rfl rfl ?_
    rintro _ _ _ ⟨⟩
    exact h.keys task keys _ rfl
  | @refused time rotation earlier d d₁ task keys target left error himport =>
    have himports := imports_importAt keys target d
    rw [himport] at himports
    obtain ⟨hsame, htasks⟩ := h.of_imports himports
    exact h.cameBack rfl rfl rfl (h.keys task keys _ rfl) hsame htasks _
  | @accepted time rotation earlier d task keys =>
    exact h.cameBack rfl rfl rfl (h.keys task keys _ rfl) rfl rfl _

/-- Changes elsewhere are of no account. -/
theorem elsewhere (h : Delivering s t r x) (hchange : Elsewhere t x.deployment d') :
    Delivering s t r { x with deployment := d' } := by
  obtain ⟨task, htask, rfl, hprogress⟩ := h.entry
  obtain ⟨task', htask', hmanager, hsameProgress, hsame⟩ := hchange task htask
  exact
    { entry := ⟨task', htask', hmanager, hsameProgress ▸ hprogress⟩
      master := hsame ▸ h.master
      delivered := hsame ▸ h.delivered
      underWay := h.underWay
      keys := hsame ▸ h.keys
      fulfilled := hsame ▸ h.fulfilled }

/-- A task that has not made a turn. -/
theorem start {current next : BlockKey} (htask : d.tasks[t.index]? = some task)
    (hstart : task.progress = .start)
    (hmaster : MasterWindow s (d.manager task.manager) current next) :
    Delivering s t task.manager (.start d) where
  entry := ⟨task, htask, rfl, fun _ => by
    simp [hstart, TaskProgress.start, Course.start, backlog_nil]⟩
  master := ⟨current, next, hmaster⟩
  delivered := .inl backlog_nil
  underWay := fun _ hway => nomatch hway
  keys := fun _ _ _ hway => nomatch hway
  fulfilled := fun _ _ _ hnone => nomatch hnone

/-- **Every run keeps what the task remembers in step with its turns.** -/
theorem run (h : Delivering s t r x) (hrun : TaskRun (Elsewhere t) t x y) :
    Delivering s t r y := by
  induction hrun with
  | start => exact h
  | step _ hstep ih => exact ih.step hstep
  | meanwhile _ hbetween ih => exact ih.elsewhere hbetween

end Delivering

/-- A task that has ended keeps its ending when it is stopped; one that has not ends well. -/
theorem run_stopTask (t : TaskRef) (d : Deployment) :
    ((stopTask t).run d).1 = (d.taskEnding? t).getD (.ok ()) := by
  rw [stopTask, run_get_bind, Deployment.taskEnding?]
  cases d.tasks[t.index]? with
  | none => rfl
  | some task =>
    show task.progress.stop.ending?.getD (.ok ()) = task.progress.ending?.getD (.ok ())
    rw [TaskProgress.stop]
    cases hending : task.progress.ending? <;>
      simp [TaskProgress.isFinished, TaskProgress.finish, hending]

/-- **A task delivers every window of its master once.** It is a task from its beginning on, whose
master was reached by whatever run and is rotated by nobody else; between its steps, also in the
middle of a tick, anything may happen elsewhere. At all times the export that was accepted last is
the one that the master has, or there is a backlog; there is one as long as keys are being
delivered, and these are then the keys that the master has. Between two ticks, the task has ended if
its last turn has ended it, and otherwise its next tick is made up of its steps and makes a turn. If
the master has refused the rotation in a turn, nothing was handed over, and the task has ended with
the error, which is also what it gives when it is stopped. If not, the keys that the master has were
handed over exactly if it has rotated or there was a backlog, and no delivery that comes back ends
the task. -/
theorem delivers_every_window {clock : Instant → Instant → Prop} {t₀ : Instant}
    {task : RotationTask} (htask : d.tasks[t.index]? = some task)
    (hstart : task.progress = .start)
    (hreached : ReachedMaster clock s t₀ (d.manager task.manager))
    (hrun : TaskRun (Elsewhere t) t (.start d) x) :
    (∃ e, (x.deployment.manager task.manager).exportKeys = .ok e ∧
      (lastAccepted? x.turns = some e ∨ Backlog x.turns)) ∧
    (∀ task' keys left, x.phase = .delivering task' keys left →
      (x.deployment.manager task.manager).exportKeys = .ok keys ∧ Backlog x.turns) ∧
    (x.phase = .resting →
      x.deployment.taskEnding? t = x.turns.head?.bind ending? ∧
      (x.deployment.taskEnding? t = none → ∃ turn, Relation.ReflTransGen (TaskStep t) x
        ⟨turn :: x.turns, .resting, ((tick t).run x.deployment).2⟩) ∧
      ∀ turn earlier, x.turns = turn :: earlier →
        (∀ error, turn.rotation = .error error → turn.handover? = none ∧
          x.deployment.taskEnding? t = some (.error error) ∧
          ((stopTask t).run x.deployment).1 = .error error) ∧
        ∀ rotated, turn.rotation = .ok rotated →
          (turn.handover?.isSome = true ↔ rotated = true ∨ Backlog earlier) ∧
          (∀ handover, turn.handover? = some handover →
            (x.deployment.manager task.manager).exportKeys = .ok handover.keys) ∧
          ((∀ handover, turn.handover? = some handover → handover.outcome ≠ .brokeDown) →
            x.deployment.taskEnding? t = none)) := by
  obtain ⟨current, next, hmaster⟩ := hreached.masterWindow
  have h := (Delivering.start htask hstart hmaster).run hrun
  refine ⟨?_, fun task' keys left hphase => ?_,
    fun hover => ⟨h.taskEnding? hover, h.steps_tick hover, fun turn earlier hturns => ?_⟩⟩
  · obtain ⟨current', next', hmaster'⟩ := h.master
    rcases h.delivered with hbacklog | ⟨e, hexport, hlast⟩
    · exact ⟨_, hmaster'.exportKeys, .inr hbacklog⟩
    · exact ⟨e, hexport, .inl hlast⟩
  · have hway := h.underWay task' (by rw [hphase]; rfl)
    exact ⟨h.keys task' keys left hphase, hway.backlog⟩
  have hdone := h.fulfilled hover turn earlier hturns
  have hending : x.deployment.taskEnding? t = turn.ending? := by
    rw [h.taskEnding? hover, hturns]
    rfl
  refine ⟨fun error herror => ?_, fun rotated hrotated =>
    ⟨hdone.handover_isSome rotated hrotated, hdone.keys, fun hback => ?_⟩⟩
  · have hended : x.deployment.taskEnding? t = some (.error error) := by
      rw [hending, ending?, herror]
    exact ⟨hdone.refused error herror, hended, by rw [run_stopTask, hended]; rfl⟩
  · exact hending.trans (ending?_eq_none hrotated hback)

/-- Where tasks and managers stay as they are, nothing happens to a task. -/
theorem elsewhere_of_eq (hmembers : d'.members = d.members) (htasks : d'.tasks = d.tasks) :
    Elsewhere t d d' := by
  intro task htask
  refine ⟨task, htasks ▸ htask, rfl, rfl, ?_⟩
  rw [Deployment.manager, Deployment.manager, member, member, hmembers]

/-- A master with the standard settings and a task that rehearses the given plan. -/
def rehearsing (plan : List Rehearsal) : Deployment :=
  { empty ⟨0⟩ with
    clocks := #[⟨0⟩]
    members := #[⟨.zeroKeyed ⟨0⟩, .clock ⟨0⟩⟩]
    tasks := #[⟨⟨0⟩, .rehearsed plan none, 0, 1000, .start, []⟩]
    entropy := .zeros 64 }

/-- The first delivery fails. When the next tick comes, the keys have to be rotated, and it is the
new ones that are delivered. -/
theorem delivers_every_window_after_failure :
    ∃ x, TaskRun (Elsewhere ⟨0⟩) ⟨0⟩ (.start (rehearsing [.fail])) x ∧ x.turns.length = 2 ∧
      ∃ e, (x.deployment.manager ⟨0⟩).exportKeys = .ok e ∧ lastAccepted? x.turns = some e := by
  have hmoved : Elsewhere ⟨0⟩ ((tick ⟨0⟩).run (rehearsing [.fail])).2
      ((setClock ⟨0⟩ ⟨600000⟩).run ((tick ⟨0⟩).run (rehearsing [.fail])).2).2 :=
    elsewhere_of_eq rfl rfl
  obtain ⟨failed, hfirst⟩ := steps_tick (d := rehearsing [.fail]) (t := ⟨0⟩) rfl rfl []
  obtain ⟨accepted, hlater⟩ := steps_tick (t := ⟨0⟩)
    (d := ((setClock ⟨0⟩ ⟨600000⟩).run ((tick ⟨0⟩).run (rehearsing [.fail])).2).2) rfl rfl [failed]
  have hrun := ((TaskRun.start.steps hfirst).meanwhile hmoved).steps hlater
  obtain ⟨⟨e, hexport, hlast⟩, -⟩ := delivers_every_window rfl rfl
    (reachedMaster_zeroKeyed anyClock ⟨0⟩) hrun
  refine ⟨_, hrun, rfl, e, hexport, hlast.resolve_right fun hbacklog => ?_⟩
  -- A task that has a backlog remembers it, and this one does not.
  obtain ⟨current, next, hmaster⟩ := (reachedMaster_zeroKeyed anyClock ⟨0⟩).masterWindow
  obtain ⟨task, htask, -, hpending⟩ := ((Delivering.start rfl rfl hmaster).run hrun).entry
  cases htask
  cases (hpending rfl).1.2 hbacklog

end Deployment

end BlockAccess
