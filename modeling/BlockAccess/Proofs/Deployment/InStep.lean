import BlockAccess.Proofs.Deployment.Delivery
import BlockAccess.Proofs.Rotation.Polling
import Mathlib.Data.List.Chain

/-!
# Slaves that follow their master

A task polls its master and has its slaves import whatever the master has changed. As long as all
goes well, a slave is never behind by more than one poll: it holds what an import of the present
keys of its master leaves, or, while they are on their way to it, what an import of the keys before
the last poll leaves. `Loop` says so at every point of a run, also in the middle of a tick, with the
polls of the master as a ghost beside the course: for each turn the time of the poll and the master
as the poll left it. The polls are a chain, each made on what the one before has left, and a run
only adds to it. So what is to be said of two points of a run can be said of one chain.

That a slave may have held other keys before its first import does not matter.

## Main results

* `PollHistory.pollRun` — from any poll of a history on, the later ones are a run of polls.
* `Loop.step` — a step in which all goes well keeps the slaves at most one poll behind.
* `Loop.run` — so does a run, and it makes the history longer.
-/

namespace BlockAccess

/-- **All went well in a turn:** the master answered, what was handed over was accepted, and the
clock is short of the last instant. -/
structure Turn.WentWell (turn : Turn) : Prop where
  rotation : ∃ rotated, turn.rotation = .ok rotated
  accepted (handover : Handover) (h : turn.handover? = some handover) :
    handover.outcome = .accepted
  time : turn.time.toInt < Instant.lastMillis

/-! ## Histories of polls -/

/-- A poll of a master: when it was made, and the master as it left it. -/
structure Poll where
  time : Instant
  manager : Manager

/-- **One poll follows another,** if it is made later and on what the other has left. -/
structure Poll.Follows (new old : Poll) : Prop where
  clock : old.time ≤ new.time
  time : new.time.toInt < Instant.lastMillis
  poll : ∃ entropy rotated,
    (RotationCall.rotateIfDue.run old.manager new.time entropy).result = .ok rotated ∧
      new.manager = (RotationCall.rotateIfDue.run old.manager new.time entropy).manager

/-- **A history of polls,** the newest first. Right after a poll nothing is due. -/
structure PollHistory (s : Settings) (polls : List Poll) : Prop where
  chain : polls.IsChain Poll.Follows
  settled (poll : Poll) (h : poll ∈ polls) :
    (∃ current next, MasterWindow s poll.manager current next) ∧
      poll.manager.window.isDue poll.time = false

namespace PollHistory

variable {s : Settings} {latest first : Poll} {polls later earlier : List Poll}
  {since now : Instant}

theorem nil : PollHistory s [] := ⟨.nil, fun _ hmem => absurd hmem List.not_mem_nil⟩

/-- From any poll of a history on, the later ones are a run of polls. -/
theorem pollRun (h : PollHistory s (later ++ first :: earlier))
    (hsince : ∀ poll ∈ later, since ≤ poll.time)
    (hlatest : (later ++ first :: earlier).head? = some latest) :
    ∃ n, PollRun since first.time first.manager n latest.time latest.manager := by
  obtain ⟨hchain, -⟩ := h
  induction later generalizing latest with
  | nil =>
    cases hlatest
    exact ⟨0, .start⟩
  | cons newest later ih =>
    cases hlatest
    obtain ⟨before, hbefore⟩ : ∃ before, (later ++ first :: earlier).head? = some before := by
      cases later <;> exact ⟨_, rfl⟩
    obtain ⟨hfollows, hrest⟩ := List.isChain_cons.1 hchain
    obtain ⟨hclock, htime, entropy, rotated, hresult, hmanager⟩ := hfollows before hbefore
    obtain ⟨n, hrun⟩ := ih (fun poll hmem => hsince poll (List.mem_cons_of_mem _ hmem)) hbefore
      hrest
    rw [hmanager]
    exact ⟨_, .poll entropy hrun hclock (hsince _ List.mem_cons_self) htime hresult⟩

/-- **A poll that succeeds makes the history longer.** -/
theorem polled (h : PollHistory s polls) {m : Manager} {current next : BlockKey}
    (hmaster : MasterWindow s m current next)
    (hlatest : ∀ poll, polls.head? = some poll → poll.manager = m ∧ poll.time ≤ now)
    (htime : now.toInt < Instant.lastMillis) {entropy : Entropy} {rotated : Bool}
    (hresult : (RotationCall.rotateIfDue.run m now entropy).result = .ok rotated) :
    PollHistory s (⟨now, (RotationCall.rotateIfDue.run m now entropy).manager⟩ :: polls) := by
  refine ⟨List.isChain_cons.2 ⟨fun old hold => ?_, h.chain⟩, fun poll hmem => ?_⟩
  · obtain ⟨rfl, hclock⟩ := hlatest old hold
    exact ⟨hclock, htime, entropy, rotated, hresult, rfl⟩
  · rcases List.mem_cons.1 hmem with rfl | hold
    · exact ⟨hmaster.call .rotateIfDue now entropy, hmaster.isDue_poll htime hresult⟩
    · exact h.settled poll hold

end PollHistory

/-- The targets to which the keys still have to come, in a tick that delivers to `targets`. -/
def Phase.outstanding (targets : List Target) : Phase → List Target
  | .resting => []
  | .exporting _ => targets
  | .delivering _ _ left => left

/-- Keys are on their way only while a tick is under way. -/
theorem Phase.exists_task_of_outstanding {targets : List Target} {phase : Phase} {target : Target}
    (h : target ∈ phase.outstanding targets) : ∃ task, phase.task? = some task := by
  cases phase with
  | resting => exact absurd h List.not_mem_nil
  | exporting task => exact ⟨task, rfl⟩
  | delivering task keys left => exact ⟨task, rfl⟩

namespace Deployment

variable {d d' d₁ : Deployment} {t : TaskRef} {task : RotationTask} {r q : ManagerRef}
  {targets : List Target} {turns : List Turn} {s : Settings} {polls : List Poll} {x y : Course}
  {phase : Phase} {m : Manager} {keys : KeyExport}

/-! ## What a slave holds -/

/-- **A slave holds the keys of `m`,** as it has taken them over some time before. -/
def Holds (d : Deployment) (q : ManagerRef) (m : Manager) : Prop :=
  ∃ e imported, m.exportKeys = .ok e ∧ imported ≤ d.now q ∧
    (d.manager q).window = .ofExport e imported (d.manager q).maxRetained

/-- It holds them as long as it stays as it is. -/
theorem Holds.of_eq (h : d.Holds q m) (hsame : d'.manager q = d.manager q)
    (hclock : d.now q ≤ d'.now q) : d'.Holds q m := by
  obtain ⟨e, imported, hexport, himported, hwindow⟩ := h
  exact ⟨e, imported, hexport, Instant.le_trans himported hclock, by rw [hsame]; exact hwindow⟩

/-- A slave that has taken over the keys of `m` holds them. -/
theorem holds_of_imported (hexport : m.exportKeys = .ok keys) (hnow : d'.now q = d.now q)
    (himported : d'.manager q = d.imported keys q) : d'.Holds q m := by
  refine ⟨keys, d.now q, hexport, hnow ▸ Instant.le_refl _, ?_⟩
  rw [himported]
  rfl

/-- A poll that does not rotate changes no manager. -/
theorem Polled.manager_of_not_rotated {current next : BlockKey} (h : Polled d r (.ok false) d₁)
    (hmaster : MasterWindow s (d.manager r) current next) (q : ManagerRef) :
    d₁.manager q = d.manager q := by
  by_cases hq : q = r
  · rcases hmaster.poll_cases h.result with ⟨hrotated, -⟩ | ⟨-, -, hkept⟩
    · cases hrotated
    · rw [hq, h.manager, hkept]
  · exact h.others q hq

theorem SameSetup.serves (h : SameSetup d d') : d'.Serves targets q ↔ d.Serves targets q := by
  simp only [Serves, h.resolve]

/-! ## The loop -/

/-- **A change that does not disturb the loop:** the task, its master and the slaves that it serves
stay as they are, the targets mean what they meant, and the clock does not go back. -/
structure Undisturbed (t : TaskRef) (r : ManagerRef) (targets : List Target) (d d' : Deployment) :
    Prop where
  task : d'.tasks[t.index]? = d.tasks[t.index]?
  master : d'.member r = d.member r
  served (q : ManagerRef) (h : d.Serves targets q) : d'.member q = d.member q
  resolve (target : Target) (h : target ∈ targets) : d'.resolve target = d.resolve target
  clock : d.now r ≤ d'.now r

/-- What leaves managers, registries and tasks alone does not disturb any loop. -/
theorem undisturbed_of_eq (hmembers : d'.members = d.members)
    (hregistries : d'.registries = d.registries) (htasks : d'.tasks = d.tasks)
    (hclock : d.now r ≤ d'.now r) : Undisturbed t r targets d d' where
  task := by rw [htasks]
  master := by rw [member, member, hmembers]
  served q _ := by rw [member, member, hmembers]
  resolve target _ := by
    cases target with
    | manager r => rfl
    | pool registry name => simp only [resolve, Deployment.registry, hregistries]
  clock := hclock

/-- **What is true of the loop** of the task `t`, its master `r` and its slaves, as long as all goes
well. The polls are those of the turns. -/
structure Loop (s : Settings) (t : TaskRef) (r : ManagerRef) (targets : List Target)
    (polls : List Poll) (x : Course) : Prop where
  delivering : Delivering s t r x
  channel (task : RotationTask)
    (h : x.deployment.tasks[t.index]? = some task ∨ x.phase.task? = some task) :
    task.channel = .direct targets
  outstanding : x.phase.outstanding targets ⊆ targets
  /-- Slaves have room for one key more than the master needs, and share its clock. -/
  room (q : ManagerRef) (h : x.deployment.Serves targets q) :
    2 + s.lifetime.toNat / s.interval.toNat ≤ (x.deployment.manager q).maxRetained ∧
      (x.deployment.member q).time = (x.deployment.member r).time
  times : x.turns.map Turn.time = polls.map Poll.time
  history : PollHistory s polls
  latest (poll : Poll) (h : polls.head? = some poll) :
    poll.manager = x.deployment.manager r ∧ poll.time ≤ x.deployment.now r
  /-- A slave is behind by no more than the keys that are on their way to it. -/
  served (hbegun : polls ≠ []) (q : ManagerRef) (hq : q ≠ r)
    (hserved : x.deployment.Serves targets q) :
    x.deployment.Holds q (x.deployment.manager r) ∨
      (x.deployment.Serves (x.phase.outstanding targets) q ∧
        ∀ before, polls[1]? = some before → x.deployment.Holds q before.manager)

namespace Loop

/-- Master and slaves read one time. -/
theorem now_eq (h : Loop s t r targets polls x) (hq : q = r ∨ x.deployment.Serves targets q) :
    x.deployment.now q = x.deployment.now r := by
  rcases hq with rfl | hserved
  · rfl
  · rw [now, now, (h.room q hserved).2]

theorem maxRetained_pos (h : Loop s t r targets polls x) (hserved : x.deployment.Serves targets q) :
    0 < (x.deployment.manager q).maxRetained :=
  Nat.lt_of_lt_of_le (Nat.lt_add_right _ Nat.two_pos) (h.room q hserved).1

/-- Before the first tick. -/
theorem start {current next : BlockKey} (htask : d.tasks[t.index]? = some task)
    (hstart : task.progress = .start) (hchannel : task.channel = .direct targets)
    (hmaster : MasterWindow s (d.manager task.manager) current next)
    (hslaves : ∀ q, d.Serves targets q →
      2 + s.lifetime.toNat / s.interval.toNat ≤ (d.manager q).maxRetained ∧
        (d.member q).time = (d.member task.manager).time) :
    Loop s t task.manager targets [] (.start d) where
  delivering := .start htask hstart hmaster
  channel task' h := by
    rcases h with hentry | hnone
    · cases htask.symm.trans hentry
      exact hchannel
    · cases hnone
  outstanding := List.nil_subset _
  room := hslaves
  times := rfl
  history := .nil
  latest _ hnone := nomatch hnone
  served hbegun := absurd rfl hbegun

/-- A step without a poll. -/
private theorem kept (h : Loop s t r targets polls x) (hdelivering : Delivering s t r y)
    (hsetup : SameSetup x.deployment y.deployment)
    (hcaps : ∀ q, (y.deployment.manager q).maxRetained = (x.deployment.manager q).maxRetained)
    (hmaster : y.deployment.manager r = x.deployment.manager r)
    (htimes : y.turns.map Turn.time = x.turns.map Turn.time)
    (hchannel : ∀ task, y.deployment.tasks[t.index]? = some task ∨ y.phase.task? = some task →
      task.channel = .direct targets)
    (houtstanding : y.phase.outstanding targets ⊆ targets)
    (hserved : polls ≠ [] → ∀ q, q ≠ r → x.deployment.Serves targets q →
      y.deployment.Holds q (x.deployment.manager r) ∨
        (x.deployment.Serves (y.phase.outstanding targets) q ∧
          ∀ before, polls[1]? = some before → y.deployment.Holds q before.manager)) :
    Loop s t r targets polls y where
  delivering := hdelivering
  channel := hchannel
  outstanding := houtstanding
  room q hq := by
    rw [hcaps, hsetup.time, hsetup.time]
    exact h.room q (hsetup.serves.1 hq)
  times := htimes.trans h.times
  history := h.history
  latest poll hlatest := by
    rw [hmaster, hsetup.now]
    exact h.latest poll hlatest
  served hbegun q hq hq' := by
    rw [hmaster, hsetup.serves]
    exact hserved hbegun q hq (hsetup.serves.1 hq')

/-- Between two ticks every slave that is served holds the present keys. -/
private theorem holds_of_resting (h : Loop s t r targets polls ⟨turns, .resting, d⟩)
    (hbegun : polls ≠ []) (hq : q ≠ r) (hserved : d.Serves targets q) :
    d.Holds q (d.manager r) := by
  rcases h.served hbegun q hq hserved with hpresent | ⟨⟨target, hmem, -⟩, -⟩
  · exact hpresent
  · exact absurd hmem List.not_mem_nil

/-- A task that has nothing to deliver has made a turn before. -/
private theorem begun_of_idle (h : Loop s t r targets polls ⟨turns, .resting, d⟩)
    (htask : d.tasks[t.index]? = some task) (hidle : task.progress.pending = false) :
    polls ≠ [] := by
  rintro rfl
  obtain ⟨-, -, hbacklog⟩ := h.delivering.of_resting htask
  obtain rfl : turns = [] := List.map_eq_nil_iff.1 h.times
  rw [hbacklog.2 Turn.backlog_nil] at hidle
  cases hidle

/-- A step with a poll. -/
private theorem polled (h : Loop s t r targets polls ⟨turns, .resting, d⟩)
    (hdelivering : Delivering s t r y) {rotated : Bool} (hpolled : Polled d r (.ok rotated) d₁)
    (htime : (d.now r).toInt < Instant.lastMillis)
    (hturns : y.turns = ⟨d.now r, .ok rotated, none⟩ :: turns)
    (hsetup : SameSetup d y.deployment)
    (hmanagers : ∀ q, y.deployment.manager q = d₁.manager q)
    (hchannel : ∀ task, y.deployment.tasks[t.index]? = some task ∨ y.phase.task? = some task →
      task.channel = .direct targets)
    (houtstanding : y.phase.outstanding targets ⊆ targets)
    (hserved : ∀ q, q ≠ r → d.Serves targets q →
      y.deployment.Holds q (y.deployment.manager r) ∨
        (d.Serves (y.phase.outstanding targets) q ∧
          ∀ before, polls.head? = some before → y.deployment.Holds q before.manager)) :
    Loop s t r targets (⟨d.now r, y.deployment.manager r⟩ :: polls) y := by
  obtain ⟨current, next, hmaster⟩ := h.delivering.master
  obtain ⟨_, _, hmaster'⟩ := hpolled.masterWindow hmaster
  have hcaps (q : ManagerRef) : (d₁.manager q).maxRetained = (d.manager q).maxRetained := by
    by_cases hq : q = r
    · rw [hq, hmaster'.maxRetained]
      exact hmaster.maxRetained.symm
    · rw [hpolled.others q hq]
  have hhistory : PollHistory s (⟨d.now r, y.deployment.manager r⟩ :: polls) := by
    rw [hmanagers, hpolled.manager]
    exact h.history.polled hmaster h.latest htime hpolled.result
  exact
    { delivering := hdelivering
      channel := hchannel
      outstanding := houtstanding
      room := fun q hq => by
        rw [hmanagers, hcaps, hsetup.time, hsetup.time]
        exact h.room q (hsetup.serves.1 hq)
      times := by
        rw [hturns, List.map_cons, List.map_cons, h.times]
      history := hhistory
      latest := by
        rintro poll ⟨⟩
        exact ⟨rfl, hsetup.now r ▸ Instant.le_refl _⟩
      served := fun _ q hq hq' => by
        rw [hsetup.serves]
        refine (hserved q hq (hsetup.serves.1 hq')).imp_right fun ⟨houtstanding, hbehind⟩ =>
          ⟨houtstanding, fun before hbefore => hbehind before ?_⟩
        rw [List.head?_eq_getElem?]
        exact hbefore }

/-- An import leaves every slave with keys that are no older than before, and the one that is meant
with the present keys. -/
private theorem served_of_imported {target : Target} {left : List Target}
    (h : Loop s t r targets polls ⟨turns, .delivering task keys (target :: left), d⟩)
    (himport : (importAt keys target).run d = (.ok (), d₁)) (hbegun : polls ≠ []) (hq : q ≠ r)
    (hserved : d.Serves targets q) :
    d₁.Holds q (d.manager r) ∨ (d.Serves left q ∧
      ∀ before, polls[1]? = some before → d₁.Holds q before.manager) := by
  have himports := imports_importAt keys target d
  rw [himport] at himports
  have hexport : (d.manager r).exportKeys = .ok keys := h.delivering.keys task keys _ rfl
  have hnow : d₁.now q = d.now q := himports.now q
  have hclock : d.now q ≤ d₁.now q := hnow ▸ Instant.le_refl _
  rcases himports.manager q with hsame | ⟨-, himported⟩
  · rcases h.served hbegun q hq hserved with hpresent | ⟨⟨target', hmem, hresolve⟩, hbehind⟩
    · exact .inl (hpresent.of_eq hsame hclock)
    rcases List.mem_cons.1 hmem with rfl | hlater
    · -- The target means this very slave, so that it has imported.
      rw [run_importAt, hresolve] at himport
      have himported := (manager_of_importKeys himport).2 (h.maxRetained_pos hserved)
      exact .inl (holds_of_imported hexport hnow himported)
    · exact .inr ⟨⟨target', hlater, hresolve⟩, fun before hbefore =>
        (hbehind before hbefore).of_eq hsame hclock⟩
  · exact .inl (holds_of_imported hexport hnow himported)

end Loop

end Deployment

/-- If all went well in a turn, it did so before its keys were handed over. -/
private theorem Turn.wentWell_before {time : Instant} {rotation : Except AccessError Bool}
    {handover? : Option Handover} {earlier : List Turn}
    (hwell : ∀ turn ∈ ⟨time, rotation, handover?⟩ :: earlier, turn.WentWell) :
    ∀ turn ∈ ⟨time, rotation, none⟩ :: earlier, turn.WentWell := by
  intro turn hmem
  rcases List.mem_cons.1 hmem with rfl | hearlier
  · have hover := hwell _ List.mem_cons_self
    exact ⟨hover.rotation, fun _ hnone => (nomatch hnone), hover.time⟩
  · exact hwell turn (List.mem_cons_of_mem _ hearlier)

/-- If all went well in the turns after a step, it did so before. -/
theorem TaskStep.wentWell {t : TaskRef} {x y : Course} (h : TaskStep t x y)
    (hwell : ∀ turn ∈ y.turns, turn.WentWell) : ∀ turn ∈ x.turns, turn.WentWell := by
  cases h with
  | stopped => exact fun turn hmem => hwell turn (List.mem_cons_of_mem _ hmem)
  | quiet => exact fun turn hmem => hwell turn (List.mem_cons_of_mem _ hmem)
  | answered => exact fun turn hmem => hwell turn (List.mem_cons_of_mem _ hmem)
  | keyless => exact hwell
  | exported => exact hwell
  | rehearsed => exact Turn.wentWell_before hwell
  | imported => exact hwell
  | refused => exact Turn.wentWell_before hwell
  | accepted => exact Turn.wentWell_before hwell

theorem TaskRun.wentWell {between : Deployment → Deployment → Prop} {t : TaskRef} {x y : Course}
    (hrun : TaskRun between t x y) (hwell : ∀ turn ∈ y.turns, turn.WentWell) :
    ∀ turn ∈ x.turns, turn.WentWell := by
  induction hrun with
  | start => exact hwell
  | step _ hstep ih => exact ih (hstep.wentWell hwell)
  | meanwhile _ _ ih => exact ih hwell

namespace Deployment

variable {d d' d₁ : Deployment} {t : TaskRef} {task : RotationTask} {r q : ManagerRef}
  {targets : List Target} {turns : List Turn} {s : Settings} {polls : List Poll} {x y : Course}

namespace Loop

/-- The task in the table after a tick has the channel that it had. -/
private theorem channel_of_settle (h : Loop s t r targets polls x)
    (htask : x.deployment.tasks[t.index]? = some task ∨ x.phase.task? = some task)
    (htasks : d.tasks = x.deployment.tasks) {events : List Event} {back : RotationTask}
    (hback : back.channel = task.channel) (other : RotationTask)
    (hother : (d.settle events t back).tasks[t.index]? = some other ∨
      Phase.resting.task? = some other) : other.channel = .direct targets := by
  obtain ⟨entry, hentry, -⟩ := h.delivering.entry
  obtain ⟨hsize, -⟩ := Array.getElem?_eq_some_iff.1 hentry
  rcases hother with hother | hnone
  · rw [tasks_settle (htasks ▸ hsize)] at hother
    cases hother
    exact hback.trans (h.channel task htask)
  · cases hnone

/-- **A step in which all goes well keeps the slaves at most one poll behind.** -/
theorem step (h : Loop s t r targets polls x) (hstep : TaskStep t x y)
    (hwell : ∀ turn ∈ y.turns, turn.WentWell) :
    y.deployment.now r = x.deployment.now r ∧ ∃ later, Loop s t r targets (later ++ polls) y ∧
      ∀ poll ∈ later, x.deployment.now r ≤ poll.time := by
  obtain ⟨current, next, hmaster⟩ := h.delivering.master
  have hdelivering := h.delivering.step hstep
  have hpoll (m : Manager) : ∀ poll ∈ [(⟨x.deployment.now r, m⟩ : Poll)],
      x.deployment.now r ≤ poll.time := by
    intro poll hmem
    rw [List.mem_singleton.1 hmem]
    exact Instant.le_refl _
  have hnone : ∀ poll ∈ ([] : List Poll), x.deployment.now r ≤ poll.time :=
    fun _ hmem => absurd hmem List.not_mem_nil
  cases hstep with
  | stopped htask hrunning hrotation =>
    obtain ⟨⟨rotated, hrotated⟩, -, -⟩ := hwell _ List.mem_cons_self
    cases hrotated
  | @quiet turns d d₁ task rotated htask hrunning hrotation hpending =>
    obtain ⟨-, rfl, -⟩ := h.delivering.of_resting htask
    have hpolled := polled_of_run hmaster.role hrotation
    have htime := (hwell _ List.mem_cons_self).time
    obtain ⟨hclear, rfl⟩ := Bool.or_eq_false_iff.1 hpending
    have hsame := hpolled.manager_of_not_rotated hmaster
    have hsetup := hpolled.toSameSetup.settle [] t (afterAnswer task (.ok false))
    refine ⟨hsetup.now _, [_], h.polled hdelivering hpolled htime rfl hsetup (fun _ => rfl)
      (h.channel_of_settle (.inl htask) hpolled.tasks rfl) (List.nil_subset _)
      (fun q hq hserved => .inl ?_), hpoll _⟩
    show Holds _ q (d₁.manager task.manager)
    rw [hsame]
    exact (h.holds_of_resting (h.begun_of_idle htask hclear) hq hserved).of_eq (hsame q)
      (hsetup.now q ▸ Instant.le_refl _)
  | @answered turns d d₁ task rotated htask hrunning hrotation hpending =>
    obtain ⟨-, rfl, -⟩ := h.delivering.of_resting htask
    have hpolled := polled_of_run hmaster.role hrotation
    have htime := (hwell _ List.mem_cons_self).time
    have hchannel := h.channel task (.inl htask)
    refine ⟨hpolled.now _, [_], h.polled hdelivering hpolled htime rfl hpolled.toSameSetup
      (fun _ => rfl) (fun other hother => ?_) (List.Subset.refl _)
      (fun q hq hserved => .inr ⟨hserved, fun before hbefore => ?_⟩), hpoll _⟩
    · rcases hother with hentry | hlocal
      · rw [hpolled.tasks, htask] at hentry
        cases hentry
        exact hchannel
      · cases hlocal
        exact hchannel
    · have hbegun : polls ≠ [] := by
        rintro rfl
        cases hbefore
      rw [(h.latest before hbefore).1]
      exact (h.holds_of_resting hbegun hq hserved).of_eq (hpolled.others q hq)
        (hpolled.now q ▸ Instant.le_refl _)
  | @keyless turns d task error hkeys =>
    rw [(h.delivering.underWay task rfl).manager, hmaster.exportKeys] at hkeys
    cases hkeys
  | @exported turns d task keys targets' hkeys hchannel =>
    obtain rfl : targets = targets' := by
      rw [h.channel task (.inr rfl)] at hchannel
      exact Channel.direct.inj hchannel
    exact ⟨rfl, [], h.kept hdelivering (.refl d) (fun _ => rfl) rfl rfl h.channel
      (List.Subset.refl _) h.served, hnone⟩
  | rehearsed hkeys hchannel hdeliver =>
    exact absurd (h.channel _ (.inr rfl)) (hchannel _)
  | @imported turns d d₁ task keys target left himport =>
    have himports := imports_importAt keys target d
    rw [himport] at himports
    refine ⟨himports.now r, [], h.kept hdelivering himports.toSameSetup himports.maxRetained
      (himports.manager_of_master hmaster.role) rfl (fun other hother => ?_)
      (List.subset_of_cons_subset h.outstanding)
      (fun hbegun q hq hserved => h.served_of_imported himport hbegun hq hserved), hnone⟩
    rw [himports.tasks] at hother
    exact h.channel other hother
  | refused himport =>
    obtain ⟨-, haccepted, -⟩ := hwell _ List.mem_cons_self
    cases haccepted _ rfl
  | @accepted time rotation earlier d task keys =>
    have hsetup := (SameSetup.refl d).settle (deliveryEvents keys .accepted) t
      { task with progress := task.progress.afterDelivery .accepted }
    refine ⟨hsetup.now r, [], h.kept hdelivering hsetup (fun _ => rfl) rfl rfl
      (h.channel_of_settle (.inr rfl) rfl rfl) (List.nil_subset _)
      (fun hbegun q hq hserved => ?_), hnone⟩
    rcases h.served hbegun q hq hserved with hpresent | ⟨⟨target, hmem, -⟩, -⟩
    · exact .inl (hpresent.of_eq rfl (hsetup.now q ▸ Instant.le_refl _))
    · exact absurd hmem List.not_mem_nil

/-- A change that does not disturb the loop keeps it. -/
theorem undisturbed (h : Loop s t r targets polls x)
    (hchange : Undisturbed t r targets x.deployment d') :
    Loop s t r targets polls { x with deployment := d' } := by
  have hmaster : d'.manager r = x.deployment.manager r := congrArg Member.manager hchange.master
  have hserves {left : List Target} (hleft : left ⊆ targets) {q : ManagerRef} :
      d'.Serves left q ↔ x.deployment.Serves left q := by
    refine exists_congr fun target => and_congr_right fun hmem => ?_
    rw [hchange.resolve target (hleft hmem)]
  have helsewhere : Elsewhere t x.deployment d' := by
    intro task htask
    obtain ⟨entry, hentry, hmanager, -⟩ := h.delivering.entry
    obtain rfl : entry = task := Option.some.inj (hentry.symm.trans htask)
    exact ⟨entry, hchange.task ▸ htask, rfl, rfl, hmanager ▸ hmaster⟩
  have hslave {q : ManagerRef} (hq : d'.Serves targets q) : d'.member q = x.deployment.member q :=
    hchange.served q ((hserves (List.Subset.refl _)).1 hq)
  have hslaves {q : ManagerRef} (hq : d'.Serves targets q) :
      d'.manager q = x.deployment.manager q := congrArg Member.manager (hslave hq)
  refine ⟨h.delivering.elsewhere helsewhere, ?_, h.outstanding, fun q hq => ?_, h.times, h.history,
    fun poll hlatest => ?_, fun hbegun q hne hq => ?_⟩
  · rw [hchange.task]
    exact h.channel
  · rw [hslaves hq, hslave hq, hchange.master]
    exact h.room q ((hserves (List.Subset.refl _)).1 hq)
  · obtain ⟨hpresent, hpolled⟩ := h.latest poll hlatest
    exact ⟨hmaster ▸ hpresent, Instant.le_trans hpolled hchange.clock⟩
  · have hserved := (hserves (List.Subset.refl _)).1 hq
    have hnow : d'.now q = d'.now r := by
      rw [now, now, hslave hq, hchange.master, (h.room q hserved).2]
    have hclock : x.deployment.now q ≤ d'.now q := by
      rw [hnow, h.now_eq (.inr hserved)]
      exact hchange.clock
    rcases h.served hbegun q hne hserved with hpresent | ⟨houtstanding, hbehind⟩
    · exact .inl (hmaster ▸ hpresent.of_eq (hslaves hq) hclock)
    · exact .inr ⟨(hserves h.outstanding).2 houtstanding, fun before hbefore =>
        (hbehind before hbefore).of_eq (hslaves hq) hclock⟩

/-- **A run in which all goes well keeps the slaves at most one poll behind,** and makes the history
of the polls longer. -/
theorem run (h : Loop s t r targets polls x) (hrun : TaskRun (Undisturbed t r targets) t x y)
    (hwell : ∀ turn ∈ y.turns, turn.WentWell) :
    x.deployment.now r ≤ y.deployment.now r ∧ ∃ later, Loop s t r targets (later ++ polls) y ∧
      ∀ poll ∈ later, x.deployment.now r ≤ poll.time := by
  induction hrun with
  | start => exact ⟨Instant.le_refl _, [], h, fun _ hmem => absurd hmem List.not_mem_nil⟩
  | step _ hstep ih =>
    obtain ⟨hclock, later, hloop, hlater⟩ := ih (hstep.wentWell hwell)
    obtain ⟨hsame, newer, hloop', hnewer⟩ := hloop.step hstep hwell
    refine ⟨hsame ▸ hclock, newer ++ later, List.append_assoc .. ▸ hloop', fun poll hmem => ?_⟩
    rcases List.mem_append.1 hmem with hnew | hold
    · exact Instant.le_trans hclock (hnewer poll hnew)
    · exact hlater poll hold
  | meanwhile _ hbetween ih =>
    obtain ⟨hclock, later, hloop, hlater⟩ := ih hwell
    exact ⟨Instant.le_trans hclock hbetween.clock, later, hloop.undisturbed hbetween, hlater⟩

end Loop

end Deployment

end BlockAccess
