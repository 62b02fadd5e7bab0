import BlockAccess.Proofs.Deployment.Delivery

/-!
# The timer makes runs

Tasks tick when the timer of their deployment is moved on, the ticks of several tasks in one row.
For each of the tasks this is a run as `TaskRun` describes it, if no two of them look after one
master: its own ticks are made up of its steps, and the ticks of the others are changes elsewhere,
since they do not touch what it has to do with. So what is proved of runs holds of a deployment on
its timer, from the moment at which the task is begun.

## Main results

* `SoleKeeper.elsewhere` — a tick of another task is a change elsewhere.
* `taskRun_runFor` — what the timer makes is a run of every task that is the only one of its master.
* `taskRun_spawn` — so is the beginning of a task, with its first turn.
-/

namespace BlockAccess.Deployment

variable {d d' d₁ d₂ : Deployment} {t t' : TaskRef} {task : RotationTask} {turn : Turn}
  {turns : List Turn} {r q : ManagerRef} {s : Settings}

/-! ## What a tick leaves alone -/

private theorem exists_tasks_settle (htasks : d₁.tasks = d.tasks) {events : List Event}
    {task' : RotationTask} (hmanager : task'.manager = task.manager) :
    ∃ back, back.manager = task.manager ∧
      (d₁.settle events t task').tasks = d.tasks.setIfInBounds t.index back :=
  ⟨task', hmanager, by rw [settle, htasks]⟩

/-- A tick puts its own task back, with the manager that it had. -/
theorem TickEffect.tasks (h : TickEffect d t task turn d') :
    ∃ back, back.manager = task.manager ∧ d'.tasks = d.tasks.setIfInBounds t.index back := by
  cases h with
  | stopped hrotation => exact exists_tasks_settle (frame_of_rotateIfDue hrotation).1 rfl
  | quiet hrotation => exact exists_tasks_settle (frame_of_rotateIfDue hrotation).1 rfl
  | keyless hrotation => exact exists_tasks_settle (frame_of_rotateIfDue hrotation).1 rfl
  | @handedOver rotated keys outcome task' d₁ d₂ hrotation _ _ hdeliver =>
    obtain ⟨himports, hmanager, -⟩ := imports_deliver (afterAnswer task (.ok rotated)) keys d₁
    rw [hdeliver] at himports hmanager
    exact exists_tasks_settle (himports.tasks.trans (frame_of_rotateIfDue hrotation).1) hmanager

/-- **A tick leaves the masters of other tasks alone.** -/
theorem TickEffect.manager_of_ne (h : TickEffect d t task turn d') (hq : q ≠ task.manager)
    (hrole : (d.manager q).role = .master) : d'.manager q = d.manager q := by
  cases h with
  | stopped hrotation => exact (frame_of_rotateIfDue hrotation).2 q hq
  | quiet hrotation => exact (frame_of_rotateIfDue hrotation).2 q hq
  | keyless hrotation => exact (frame_of_rotateIfDue hrotation).2 q hq
  | @handedOver rotated keys outcome task' d₁ d₂ hrotation _ _ hdeliver =>
    obtain ⟨himports, -⟩ := imports_deliver (afterAnswer task (.ok rotated)) keys d₁
    rw [hdeliver] at himports
    have hsame := (frame_of_rotateIfDue hrotation).2 q hq
    exact (himports.manager_of_master (hsame ▸ hrole)).trans hsame

/-- A tick keeps the master of its task a master. -/
theorem TickEffect.masterWindow {current next : BlockKey} (h : TickEffect d t task turn d')
    (hmaster : MasterWindow s (d.manager task.manager) current next) :
    ∃ current next, MasterWindow s (d'.manager task.manager) current next := by
  cases h with
  | stopped hrotation => exact (polled_of_run hmaster.role hrotation).masterWindow hmaster
  | quiet hrotation => exact (polled_of_run hmaster.role hrotation).masterWindow hmaster
  | keyless hrotation => exact (polled_of_run hmaster.role hrotation).masterWindow hmaster
  | @handedOver rotated keys outcome task' d₁ d₂ hrotation _ _ hdeliver =>
    obtain ⟨himports, -⟩ := imports_deliver (afterAnswer task (.ok rotated)) keys d₁
    rw [hdeliver] at himports
    obtain ⟨_, _, hpolled⟩ := (polled_of_run hmaster.role hrotation).masterWindow hmaster
    have hsame : d₂.manager task.manager = d₁.manager task.manager :=
      himports.manager_of_master hpolled.role
    exact ⟨_, _, hsame ▸ hpolled⟩

/-! ## Several tasks -/

/-- **The task of `t`, and no other, looks after the master `r`.** -/
structure SoleKeeper (s : Settings) (t : TaskRef) (r : ManagerRef) (d : Deployment) : Prop where
  entry : ∃ task, d.tasks[t.index]? = some task ∧ task.manager = r
  others (i : Nat) (task : RotationTask) (h : d.tasks[i]? = some task) (hi : i ≠ t.index) :
    task.manager ≠ r
  master : ∃ current next, MasterWindow s (d.manager r) current next

namespace SoleKeeper

/-- A tick does not change who looks after which manager. -/
private theorem others_tick (h : SoleKeeper s t r d)
    (htask : d.tasks[t'.index]? = some task)
    (heffect : TickEffect d t' task turn d') (i : Nat) (other : RotationTask)
    (hother : d'.tasks[i]? = some other) (hi : i ≠ t.index) : other.manager ≠ r := by
  obtain ⟨back, hmanager, htasks⟩ := heffect.tasks
  rw [htasks, Array.getElem?_setIfInBounds] at hother
  split at hother
  · rename_i hindex
    split at hother
    · cases hother
      rw [hmanager]
      exact h.others i task (hindex ▸ htask) hi
    · cases hother
  · exact h.others i other hother hi

/-- **A tick of another task is a change elsewhere.** -/
theorem elsewhere (h : SoleKeeper s t r d) (hother : t'.index ≠ t.index)
    (htask : d.tasks[t'.index]? = some task) (heffect : TickEffect d t' task turn d') :
    SoleKeeper s t r d' ∧ Elsewhere t d d' := by
  obtain ⟨own, hown, hmanager⟩ := h.entry
  obtain ⟨current, next, hmaster⟩ := h.master
  obtain ⟨back, -, htasks⟩ := heffect.tasks
  have hkept : d'.tasks[t.index]? = some own := by
    rw [htasks, Array.getElem?_setIfInBounds_ne hother]
    exact hown
  have hsame : d'.manager r = d.manager r :=
    heffect.manager_of_ne (h.others _ task htask hother).symm hmaster.role
  refine ⟨⟨⟨own, hkept, hmanager⟩, h.others_tick htask heffect, hsame ▸ h.master⟩, ?_⟩
  intro own' hown'
  obtain rfl : own = own' := Option.some.inj (hown.symm.trans hown')
  exact ⟨own, hkept, rfl, rfl, hmanager ▸ hsame⟩

/-- A tick of any task belongs to a run of the one task. -/
theorem tick (h : SoleKeeper s t r d) (t' : TaskRef) (turns : List Turn) :
    SoleKeeper s t r ((Deployment.tick t').run d).2 ∧
      ∃ later, TaskRun (Elsewhere t) t ⟨turns, .resting, d⟩
        ⟨later ++ turns, .resting, ((Deployment.tick t').run d).2⟩ := by
  rcases tick_cases t' d with hsame | ⟨task, htask, hrunning, turn, heffect⟩
  · rw [hsame]
    exact ⟨h, [], .start⟩
  by_cases hown : t' = t
  · subst hown
    obtain ⟨task', htask', rfl⟩ := h.entry
    obtain rfl : task = task' := Option.some.inj (htask.symm.trans htask')
    obtain ⟨current, next, hmaster⟩ := h.master
    obtain ⟨back, hmanager, htasks⟩ := heffect.tasks
    obtain ⟨hsize, -⟩ := Array.getElem?_eq_some_iff.1 htask
    have hback : ((Deployment.tick t').run d).2.tasks[t'.index]? = some back := by
      rw [htasks, Array.getElem?_setIfInBounds_self_of_lt hsize]
    exact ⟨⟨⟨back, hback, hmanager⟩, h.others_tick htask heffect, heffect.masterWindow hmaster⟩,
      [turn], TaskRun.start.steps (heffect.steps htask hrunning turns)⟩
  · have hindex : t'.index ≠ t.index := fun hsame => hown (by cases t; cases t'; cases hsame; rfl)
    obtain ⟨hsole, helsewhere⟩ := h.elsewhere hindex htask heffect
    exact ⟨hsole, [], TaskRun.start.meanwhile helsewhere⟩

end SoleKeeper

/-! ## The timer -/

theorem SoleKeeper.performTicks (h : SoleKeeper s t r d) (ticks : List TaskRef)
    (turns : List Turn) :
    SoleKeeper s t r ((Deployment.performTicks ticks).run d).2 ∧
      ∃ later, TaskRun (Elsewhere t) t ⟨turns, .resting, d⟩
        ⟨later ++ turns, .resting, ((Deployment.performTicks ticks).run d).2⟩ := by
  induction ticks generalizing d turns with
  | nil => exact ⟨h, [], .start⟩
  | cons first rest ih =>
    obtain ⟨hfirst, now, hrun⟩ := h.tick first turns
    obtain ⟨hrest, later, hrun'⟩ := ih hfirst (now ++ turns)
    refine ⟨hrest, later ++ now, ?_⟩
    rw [List.append_assoc]
    exact hrun.trans hrun'

/-- **What the timer makes is a run** of every task that is the only one of its master. -/
theorem taskRun_runFor (h : SoleKeeper s t r d) (millis : Nat) (turns : List Turn) :
    ∃ later, TaskRun (Elsewhere t) t ⟨turns, .resting, d⟩
      ⟨later ++ turns, .resting, ((runFor millis).run d).2⟩ := by
  obtain ⟨-, later, hrun⟩ := h.performTicks (d.ticksUntil (d.timer + millis)) turns
  exact ⟨later, hrun.meanwhile (elsewhere_of_eq rfl rfl)⟩

/-- What a task remembers stays in step with its turns however far the timer is moved on. -/
theorem Delivering.runFor (h : Delivering s t r ⟨turns, .resting, d⟩) (hsole : SoleKeeper s t r d)
    (millis : Nat) :
    ∃ later, Delivering s t r
      ⟨later ++ turns, .resting, ((Deployment.runFor millis).run d).2⟩ := by
  obtain ⟨later, hrun⟩ := taskRun_runFor hsole millis turns
  exact ⟨later, h.run hrun⟩

/-- A task of the manager `r` before its first tick. -/
def begun (d : Deployment) (r : ManagerRef) (channel : Channel) (period : Nat) : RotationTask :=
  ⟨r, channel, d.timer, min period longestPeriod, .start, []⟩

/-- **A task with a period begins with its first turn.** Before it, the task is in place and has not
made a turn, and nothing else has changed. -/
theorem taskRun_spawn (d : Deployment) (r : ManagerRef) (channel : Channel) {period : Nat}
    (hperiod : period ≠ 0) :
    ∃ turn, TaskRun (Elsewhere ⟨d.tasks.size⟩) ⟨d.tasks.size⟩
      (.start { d with tasks := d.tasks.push (d.begun r channel period) })
      ⟨[turn], .resting, ((spawn r channel period).run d).2⟩ := by
  have hspawn : ((spawn r channel period).run d).2 = ((tick ⟨d.tasks.size⟩).run
      { d with tasks := d.tasks.push (d.begun r channel period) }).2 := by
    rw [spawn, run_get_bind, if_neg hperiod]
    rfl
  rw [hspawn]
  obtain ⟨turn, hsteps⟩ := steps_tick (t := ⟨d.tasks.size⟩)
    (d := { d with tasks := d.tasks.push (d.begun r channel period) })
    Array.getElem?_push_size rfl []
  exact ⟨turn, TaskRun.start.steps hsteps⟩

end BlockAccess.Deployment
