import BlockAccess.Deployment.Distribution

/-!
# What a delivery leaves alone

A delivery walks over its targets and may be refused on the way. However far it comes, all that it
does to a deployment is to put the keys of the export in the place of those that some slaves held
before. `Imports` says this, and since it can be chained, it needs to be proved of a single import
only. Masters, clocks, registries and tasks are what they were; in particular a target means the
same manager throughout a delivery.

## Main results

* `Imports` — all that deliveries do, and `Imports.trans`, by which it is chained.
* `imports_deliver` — every delivery on every channel does that and no more.
* `manager_of_importKeys` — a manager that has accepted an export is a slave and holds its keys.
-/

namespace BlockAccess.Deployment

variable {d d' d'' : Deployment} {e : KeyExport} {r q : ManagerRef}

/-! ## Another manager in the place of one -/

/-- The deployment with another manager in the place of one. -/
def withManager (d : Deployment) (r : ManagerRef) (m : Manager) : Deployment :=
  { d with members := d.members.modify r.index ({ · with manager := m }) }

/-- The table has a place for every manager that is not the one without settings. -/
theorem lt_size_of_manager_ne (h : d.manager r ≠ default) : r.index < d.members.size := by
  by_cases hin : r.index < d.members.size
  · exact hin
  · refine absurd ?_ h
    rw [manager, member, Array.getD_eq_getD_getElem?, Array.getElem?_eq_none (Nat.not_lt.1 hin)]
    rfl

/-- A manager that keeps retired keys has a place in the table. -/
theorem lt_size_of_maxRetained (h : 0 < (d.manager r).maxRetained) :
    r.index < d.members.size := by
  refine lt_size_of_manager_ne fun hdefault => ?_
  rw [hdefault] at h
  exact Nat.lt_irrefl 0 h

theorem member_withManager (h : r.index < d.members.size) (m : Manager) :
    (d.withManager r m).member r = { d.member r with manager := m } := by
  simp only [member, withManager, Array.getD_eq_getD_getElem?, Array.getElem?_modify, if_true,
    Array.getElem?_eq_getElem h]
  rfl

theorem manager_withManager (h : r.index < d.members.size) (m : Manager) :
    (d.withManager r m).manager r = m := by
  rw [manager, member_withManager h]

theorem member_withManager_of_ne (h : q ≠ r) (m : Manager) :
    (d.withManager r m).member q = d.member q := by
  have hindex : r.index ≠ q.index := fun hsame => h (by cases q; cases r; cases hsame; rfl)
  simp only [member, withManager, Array.getD_eq_getD_getElem?, Array.getElem?_modify,
    if_neg hindex]

theorem now_withManager_of_ne (h : q ≠ r) (m : Manager) : (d.withManager r m).now q = d.now q := by
  rw [now, now, member_withManager_of_ne h]
  cases (d.member q).time <;> rfl

/-- Where there is no place, nothing is put. -/
theorem withManager_of_not_lt (h : ¬ r.index < d.members.size) (m : Manager) :
    (d.withManager r m).member r = d.member r := by
  simp only [member, withManager, Array.getD_eq_getD_getElem?, Array.getElem?_modify, if_true,
    Array.getElem?_eq_none (Nat.not_lt.1 h)]
  rfl

/-- Whatever the reference means, what is read afterwards is the old or the new manager, and the
clock is the old one. -/
theorem member_withManager_cases (d : Deployment) (r q : ManagerRef) (m : Manager) :
    (d.withManager r m).member q = d.member q ∨
      (q = r ∧ (d.withManager r m).member q = { d.member q with manager := m }) := by
  by_cases hq : q = r
  · subst hq
    by_cases hin : q.index < d.members.size
    · exact .inr ⟨rfl, member_withManager hin m⟩
    · exact .inl (withManager_of_not_lt hin m)
  · exact .inl (member_withManager_of_ne hq m)

theorem time_withManager (d : Deployment) (r q : ManagerRef) (m : Manager) :
    ((d.withManager r m).member q).time = (d.member q).time := by
  rcases member_withManager_cases d r q m with hsame | ⟨-, hnew⟩
  · rw [hsame]
  · rw [hnew]

theorem withManager_manager (d : Deployment) (r : ManagerRef) :
    d.withManager r (d.manager r) = d := by
  have hmembers : d.members.modify r.index ({ · with manager := d.manager r }) = d.members := by
    refine Array.ext_getElem? fun i => ?_
    rw [Array.getElem?_modify]
    split
    · rename_i hindex
      subst hindex
      rw [manager, member, Array.getD_eq_getD_getElem?]
      cases d.members[r.index]? <;> rfl
    · rfl
  rw [withManager, hmembers]

/-! ## All managers seen in one way -/

section View

variable {view : Manager → Manager}

/-- The deployment with every manager replaced by a view of it. -/
def viewed (view : Manager → Manager) (d : Deployment) : Deployment :=
  { d with members := d.members.map fun x => { x with manager := view x.manager } }

theorem member_viewed (hdefault : view default = default) (d : Deployment) (r : ManagerRef) :
    (d.viewed view).member r = { d.member r with manager := view (d.manager r) } := by
  simp only [manager, member, viewed, Array.getD_eq_getD_getElem?, Array.getElem?_map]
  cases d.members[r.index]? with
  | none =>
    show (default : Member) = { (default : Member) with manager := view default }
    rw [hdefault]
    rfl
  | some x => rfl

theorem manager_viewed (hdefault : view default = default) (d : Deployment) (r : ManagerRef) :
    (d.viewed view).manager r = view (d.manager r) :=
  congrArg Member.manager (member_viewed hdefault d r)

theorem now_viewed (hdefault : view default = default) (d : Deployment) (r : ManagerRef) :
    (d.viewed view).now r = d.now r := by
  rw [now, now, member_viewed hdefault]
  cases (d.member r).time <;> rfl

theorem viewed_withManager (d : Deployment) (r : ManagerRef) (m : Manager) :
    (d.withManager r m).viewed view = (d.viewed view).withManager r (view m) := by
  have hmembers : (d.members.modify r.index ({ · with manager := m })).map
      (fun x => { x with manager := view x.manager })
      = (d.members.map fun x => { x with manager := view x.manager }).modify r.index
          ({ · with manager := view m }) := by
    refine Array.ext_getElem? fun i => ?_
    simp only [Array.getElem?_map, Array.getElem?_modify]
    split <;> cases d.members[i]? <;> rfl
  simp only [withManager, viewed, hmembers]

/-- A manager that looks the same makes no difference. -/
theorem viewed_withManager_of_eq (hdefault : view default = default) {m : Manager}
    (h : view m = view (d.manager r)) : (d.withManager r m).viewed view = d.viewed view := by
  rw [viewed_withManager, h, ← manager_viewed hdefault, withManager_manager]

end View

/-! ## What stays -/

/-- The manager that a target means. -/
def resolve (d : Deployment) : Target → Except AccessError ManagerRef
  | .manager r => .ok r
  | .pool registry name => (d.registry registry).find name

/-- **All clocks show what they showed,** every manager has the clock that it had, and every target
means what it meant. -/
structure SameSetup (d d' : Deployment) : Prop where
  systemTime : d'.systemTime = d.systemTime
  clocks : d'.clocks = d.clocks
  registries : d'.registries = d.registries
  time (q : ManagerRef) : (d'.member q).time = (d.member q).time

namespace SameSetup

theorem refl (d : Deployment) : SameSetup d d := ⟨rfl, rfl, rfl, fun _ => rfl⟩

theorem trans (h : SameSetup d d') (h' : SameSetup d' d'') : SameSetup d d'' where
  systemTime := h'.systemTime.trans h.systemTime
  clocks := h'.clocks.trans h.clocks
  registries := h'.registries.trans h.registries
  time q := (h'.time q).trans (h.time q)

theorem now (h : SameSetup d d') (q : ManagerRef) : d'.now q = d.now q := by
  rw [Deployment.now, Deployment.now, h.time]
  cases (d.member q).time with
  | clock c => rw [timeOf, timeOf, clockTime, clockTime, h.clocks]
  | system => exact h.systemTime

theorem resolve (h : SameSetup d d') (target : Target) :
    d'.resolve target = d.resolve target := by
  cases target with
  | manager r => rfl
  | pool registry name => simp only [Deployment.resolve, Deployment.registry, h.registries]

end SameSetup

/-! ## Deliveries -/

/-- The manager that one becomes when it takes over an export. -/
def imported (d : Deployment) (e : KeyExport) (q : ManagerRef) : Manager :=
  { d.manager q with window := .ofExport e (d.now q) (d.manager q).maxRetained }

/-- **All that the delivery of an export does to a deployment:** some slaves have taken it over. -/
structure Imports (e : KeyExport) (d d' : Deployment) : Prop extends SameSetup d d' where
  tasks : d'.tasks = d.tasks
  manager (q : ManagerRef) : d'.manager q = d.manager q ∨
    ((d.manager q).role = .slave ∧ d'.manager q = d.imported e q)

namespace Imports

theorem refl (e : KeyExport) (d : Deployment) : Imports e d d :=
  ⟨.refl d, rfl, fun _ => .inl rfl⟩

/-- A master does not import. -/
theorem manager_of_master (h : Imports e d d') (hrole : (d.manager q).role = .master) :
    d'.manager q = d.manager q := by
  rcases h.manager q with hsame | ⟨hslave, -⟩
  · exact hsame
  · rw [hrole] at hslave
    cases hslave

theorem role (h : Imports e d d') (q : ManagerRef) :
    (d'.manager q).role = (d.manager q).role := by
  rcases h.manager q with hsame | ⟨-, himported⟩
  · rw [hsame]
  · rw [himported, imported]

theorem maxRetained (h : Imports e d d') (q : ManagerRef) :
    (d'.manager q).maxRetained = (d.manager q).maxRetained := by
  rcases h.manager q with hsame | ⟨-, himported⟩
  · rw [hsame]
  · rw [himported, imported]

/-- What a manager becomes by an import does not depend on the imports before. -/
theorem imported_eq (h : Imports e d d') (q : ManagerRef) : d'.imported e q = d.imported e q := by
  have hsame : { d'.manager q with window := default } = { d.manager q with window := default } := by
    rcases h.manager q with hsame | ⟨-, himported⟩
    · rw [hsame]
    · rw [himported, imported]
  have hupdate (m : Manager) (w : KeyWindow) :
      { m with window := w } = { { m with window := default } with window := w } := rfl
  rw [imported, imported, hupdate, hsame, h.now, h.maxRetained]

/-- **Deliveries of one export can be chained.** -/
theorem trans (h : Imports e d d') (h' : Imports e d' d'') : Imports e d d'' where
  toSameSetup := h.toSameSetup.trans h'.toSameSetup
  tasks := h'.tasks.trans h.tasks
  manager q := by
    rcases h'.manager q with hsame | ⟨hslave, himported⟩
    · rw [hsame]
      exact h.manager q
    · exact .inr ⟨h.role q ▸ hslave, himported.trans (h.imported_eq q)⟩

end Imports

/-! ## One target -/

theorem run_importKeys (r : ManagerRef) (e : KeyExport) (d : Deployment) :
    (importKeys r e).run d =
      match (d.manager r).importKeys (d.now r) e with
      | .error error => (.error error, d)
      | .ok changed => (.ok (), { d.withManager r changed with
          log := d.log ++ ((d.manager r).importEvents (d.now r) e).toArray }) := by
  show (match (d.manager r).importKeys (d.now r) e with
    | .error error => _
    | .ok changed => _ : Deploy _) d = _
  cases (d.manager r).importKeys (d.now r) e <;> rfl

theorem run_importAt (e : KeyExport) (target : Target) (d : Deployment) :
    (importAt e target).run d =
      match d.resolve target with
      | .error error => (.error error, d)
      | .ok r => (importKeys r e).run d := by
  cases target with
  | manager r => rfl
  | pool registry name =>
    show (match (d.registry registry).find name with
      | .error error => _
      | .ok r => _ : Deploy _) d = _
    rw [resolve]
    cases (d.registry registry).find name <;> rfl

/-- The keys of one manager are replaced, if at all. -/
theorem imports_importKeys (r : ManagerRef) (e : KeyExport) (d : Deployment) :
    Imports e d ((importKeys r e).run d).2 := by
  rw [run_importKeys]
  cases himport : (d.manager r).importKeys (d.now r) e with
  | error error => exact .refl e d
  | ok changed =>
    obtain ⟨hrole, rfl⟩ := Manager.eq_of_importKeys himport
    refine ⟨⟨rfl, rfl, rfl, fun q => time_withManager d r q _⟩, rfl, fun q => ?_⟩
    rcases member_withManager_cases d r q (d.imported e r) with hsame | ⟨rfl, hnew⟩
    · exact .inl (congrArg Member.manager hsame)
    · exact .inr ⟨hrole, congrArg Member.manager hnew⟩

/-- A manager that has accepted an export is a slave and holds its keys. -/
theorem manager_of_importKeys (h : (importKeys r e).run d = (.ok (), d')) :
    (d.manager r).role = .slave ∧
      (0 < (d.manager r).maxRetained → d'.manager r = d.imported e r) := by
  rw [run_importKeys] at h
  cases himport : (d.manager r).importKeys (d.now r) e with
  | error error =>
    rw [himport] at h
    cases h
  | ok changed =>
    rw [himport] at h
    cases h
    obtain ⟨hrole, rfl⟩ := Manager.eq_of_importKeys himport
    exact ⟨hrole, fun hroom => manager_withManager (lt_size_of_maxRetained hroom) _⟩

/-! ## All targets -/

/-- An operation goes on from where the one before it has come to. -/
theorem run_bind_of_eq {α β : Type} {x : Deploy α} {f : α → Deploy β} {a : α}
    (h : x.run d = (a, d')) : (x >>= f).run d = (f a).run d' := by
  show (f (x.run d).1).run (x.run d).2 = _
  rw [h]

theorem run_distribute_of_refused {target : Target} {error : AccessError}
    (h : (importAt e target).run d = (.error error, d')) (rest : List Target) :
    (distribute e (target :: rest)).run d = (.error error, d') := by
  rw [distribute, run_bind_of_eq h]
  rfl

theorem run_distribute_of_accepted {target : Target}
    (h : (importAt e target).run d = (.ok (), d')) (rest : List Target) :
    (distribute e (target :: rest)).run d = (distribute e rest).run d' := by
  rw [distribute, run_bind_of_eq h]

theorem imports_importAt (e : KeyExport) (target : Target) (d : Deployment) :
    Imports e d ((importAt e target).run d).2 := by
  rw [run_importAt]
  cases d.resolve target with
  | error error => exact .refl e d
  | ok r => exact imports_importKeys r e d

/-- However far a delivery comes, some slaves have taken over the export. -/
theorem imports_distribute (e : KeyExport) (targets : List Target) (d : Deployment) :
    Imports e d ((distribute e targets).run d).2 := by
  induction targets generalizing d with
  | nil => exact .refl e d
  | cons target rest ih =>
    have hfirst := imports_importAt e target d
    rcases hrun : (importAt e target).run d with ⟨_ | _, d'⟩
    · rw [hrun] at hfirst
      rw [run_distribute_of_refused hrun]
      exact hfirst
    · rw [hrun] at hfirst
      rw [run_distribute_of_accepted hrun]
      exact hfirst.trans (ih d')

/-- The manager is meant by one of the targets. -/
def Serves (d : Deployment) (targets : List Target) (q : ManagerRef) : Prop :=
  ∃ target ∈ targets, d.resolve target = .ok q

/-! ## The channels of tasks -/

theorem run_deliver_direct {task : RotationTask} {targets : List Target}
    (hchannel : task.channel = .direct targets) (e : KeyExport) (d : Deployment) :
    (deliver task e).run d =
      ((outcomeOf ((distribute e targets).run d).1, task), ((distribute e targets).run d).2) := by
  simp only [deliver, hchannel]
  rfl

/-- **Every delivery on every channel does no more than to have some slaves import,** and the task
keeps its manager and its progress. -/
theorem imports_deliver (task : RotationTask) (e : KeyExport) (d : Deployment) :
    Imports e d ((deliver task e).run d).2 ∧
      ((deliver task e).run d).1.2.manager = task.manager ∧
      ((deliver task e).run d).1.2.progress = task.progress := by
  cases hchannel : task.channel with
  | direct targets =>
    rw [run_deliver_direct hchannel]
    exact ⟨imports_distribute e targets d, rfl, rfl⟩
  | rehearsed plan target? =>
    simp only [deliver, hchannel]
    cases plan.head?.getD .succeed with
    | succeed =>
      cases target? with
      | none => exact ⟨.refl e d, rfl, rfl⟩
      | some r => exact ⟨imports_importKeys r e d, rfl, rfl⟩
    | fail => exact ⟨.refl e d, rfl, rfl⟩
    | breakDown => exact ⟨.refl e d, rfl, rfl⟩

end BlockAccess.Deployment
