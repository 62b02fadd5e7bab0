import BlockAccess.Proofs.Deployment.Failures

/-!
# Deliveries that are repeated

A delivery goes to one target after the other, and the first that refuses it ends it. Then the
managers behind the targets before that one have the keys, and all others are as they were.
`Reached` says this of a list of targets, and as it can be put together as lists can, a delivery is
taken apart at the target that refused (`distribute_cases`).

What such an attempt leaves behind makes no difference to the next one. An import does not look at
the keys that it replaces, and neither does the answer of a target. So two deployments are compared
in which the same is done, except that in the first one keys are delivered in between, wherever that
may be and however far it comes (`Retried`). They never differ in more than their logs and the keys
of their slaves, which are put out of sight by `withoutImports`; and where a delivery gets through,
it makes the keys of the slaves the same as well.

## Main results

* `distribute_cases` — a delivery reaches all targets, or those before the first that refuses.
* `Retried.withoutImports_eq` — attempts leave no trace but keys of slaves.
* `distribution_resumable` — both together, for all deliveries.
-/

namespace BlockAccess

open Deployment

/-! ## Managers without the keys of others -/

namespace Manager

variable {m m' : Manager}

/-- The manager without the keys that it has taken over. A master has made its own. -/
def withoutImports (m : Manager) : Manager :=
  match m.role with
  | .master => m
  | .slave => { m with window := default }

theorem withoutImports_of_master (h : m.role = .master) : m.withoutImports = m := by
  rw [withoutImports, h]

theorem withoutImports_of_slave (h : m.role = .slave) :
    m.withoutImports = { m with window := default } := by
  rw [withoutImports, h]

theorem role_withoutImports (m : Manager) : m.withoutImports.role = m.role := by
  cases h : m.role with
  | master => rw [withoutImports_of_master h, h]
  | slave => rw [withoutImports_of_slave h, h]

theorem role_of_withoutImports (h : m'.withoutImports = m.withoutImports) : m'.role = m.role := by
  rw [← role_withoutImports, h, role_withoutImports]

/-- A master is the same with and without imports. -/
theorem eq_of_withoutImports (h : m'.withoutImports = m.withoutImports) (hrole : m.role = .master) :
    m' = m := by
  have hrole' := (role_of_withoutImports h).trans hrole
  rwa [withoutImports_of_master hrole, withoutImports_of_master hrole'] at h

/-- Slaves that are the same without imports become the same by an import. -/
theorem importKeys_of_withoutImports (h : m'.withoutImports = m.withoutImports) (now : Instant)
    (e : KeyExport) : m'.importKeys now e = m.importKeys now e := by
  cases hrole : m.role with
  | master => rw [eq_of_withoutImports h hrole]
  | slave =>
    have hrole' := (role_of_withoutImports h).trans hrole
    rw [withoutImports_of_slave hrole, withoutImports_of_slave hrole', mk.injEq] at h
    obtain ⟨-, hissue, hlimit, -, hcounter⟩ := h
    simp only [importKeys, hrole, hrole', hissue, hlimit, hcounter]

theorem withoutImports_of_importKeys {now : Instant} {e : KeyExport}
    (h : m.importKeys now e = .ok m') : m'.withoutImports = m.withoutImports := by
  obtain ⟨hrole, rfl⟩ := eq_of_importKeys h
  rw [withoutImports_of_slave hrole]
  exact withoutImports_of_slave hrole

/-- A master rotates the keys that it has made, and a slave does not rotate. -/
theorem withoutImports_call (h : m'.withoutImports = m.withoutImports) (c : RotationCall)
    (now : Instant) (entropy : Entropy) :
    (c.run m' now entropy).manager.withoutImports = (c.run m now entropy).manager.withoutImports ∧
      (c.run m' now entropy).entropy = (c.run m now entropy).entropy := by
  cases hrole : m.role with
  | master =>
    rw [eq_of_withoutImports h hrole]
    exact ⟨rfl, rfl⟩
  | slave =>
    have hrole' := (role_of_withoutImports h).trans hrole
    cases c <;>
      simpa only [RotationCall.run, rotate, rotateIfDue, hrole, hrole', and_true] using h

end Manager

/-! ## Deployments without imported keys -/

namespace Deployment

variable {d d' d₁ d₂ : Deployment} {e : KeyExport} {q r : ManagerRef} {target : Target}
  {reached targets : List Target}

/-- **What imports do not change:** all of the deployment but the keys of slaves and the log. -/
def withoutImports (d : Deployment) : Deployment :=
  { d.viewed Manager.withoutImports with log := #[] }

theorem withoutImports_withManager (d : Deployment) (r : ManagerRef) (m : Manager) :
    (d.withManager r m).withoutImports = d.withoutImports.withManager r m.withoutImports :=
  congrArg (fun x : Deployment => { x with log := #[] }) (viewed_withManager d r m)

theorem withoutImports_withManager_of_eq {m : Manager}
    (h : m.withoutImports = (d.manager r).withoutImports) :
    (d.withManager r m).withoutImports = d.withoutImports :=
  congrArg (fun x : Deployment => { x with log := #[] }) (viewed_withManager_of_eq rfl h)

/-- **Deployments that are the same without imports** have the same clocks and registries, and their
managers are the same without imports. -/
theorem same_of_withoutImports (h : d'.withoutImports = d.withoutImports) :
    d'.registries = d.registries ∧ d'.members.size = d.members.size ∧
      ∀ q, d'.now q = d.now q ∧ (d'.manager q).withoutImports = (d.manager q).withoutImports := by
  refine ⟨congrArg (·.registries) h, ?_, fun q => ⟨?_, ?_⟩⟩
  · have hsize := congrArg (·.members.size) h
    simpa only [withoutImports, viewed, Array.size_map] using hsize
  · exact (now_viewed rfl d' q).symm.trans ((congrArg (·.now q) h).trans (now_viewed rfl d q))
  · exact (manager_viewed rfl d' q).symm.trans
      ((congrArg (·.manager q) h).trans (manager_viewed rfl d q))

/-! ### Operations -/

section Operations

variable {α : Type}

/-- The operation does what an import may do, and no more. -/
def OnlyImports (x : Deploy α) : Prop := ∀ d, (x.run d).2.withoutImports = d.withoutImports

/-- **The operation goes by what imports do not change:** deployments that are the same without
imports remain so. -/
def Steady (x : Deploy α) : Prop :=
  ∀ d d', d'.withoutImports = d.withoutImports →
    (x.run d').2.withoutImports = (x.run d).2.withoutImports

theorem OnlyImports.steady {x : Deploy α} (h : OnlyImports x) : Steady x := by
  intro d d' hsame
  rw [h d', h d, hsame]

end Operations

theorem onlyImports_importKeys (r : ManagerRef) (e : KeyExport) :
    OnlyImports (importKeys r e) := by
  intro d
  rw [run_importKeys]
  cases himport : (d.manager r).importKeys (d.now r) e with
  | error error => rfl
  | ok changed =>
    exact withoutImports_withManager_of_eq (Manager.withoutImports_of_importKeys himport)

theorem onlyImports_importAt (e : KeyExport) (target : Target) :
    OnlyImports (importAt e target) := by
  intro d
  rw [run_importAt]
  cases d.resolve target with
  | error error => rfl
  | ok r => exact onlyImports_importKeys r e d

/-- However far a delivery comes, it is nothing but imports. -/
theorem onlyImports_distribute (e : KeyExport) (targets : List Target) :
    OnlyImports (distribute e targets) := by
  intro d
  induction targets generalizing d with
  | nil => rfl
  | cons target rest ih =>
    have hfirst := onlyImports_importAt e target d
    rcases hrun : (importAt e target).run d with ⟨_ | _, d₁⟩
    · rw [hrun] at hfirst
      rw [run_distribute_of_refused hrun]
      exact hfirst
    · rw [hrun] at hfirst
      rw [run_distribute_of_accepted hrun]
      exact (ih d₁).trans hfirst

theorem onlyImports_ask (q : TokenQuery) (a : Authority) : OnlyImports (q.ask a) := by
  intro d
  obtain ⟨log, hask, -⟩ := q.run_ask_authority a d
  rw [hask]
  rfl

theorem steady_call (c : RotationCall) (r : ManagerRef) :
    Steady (carryOut r c.run) := by
  intro d d' hsame
  obtain ⟨-, -, hmanagers⟩ := same_of_withoutImports hsame
  obtain ⟨hnow, hmanager⟩ := hmanagers r
  have hentropy : d'.entropy = d.entropy := congrArg (·.entropy) hsame
  obtain ⟨hmade, hleft⟩ := Manager.withoutImports_call hmanager c (d.now r) d.entropy
  have hrun (d : Deployment) : ((carryOut r c.run).run d).2.withoutImports
      = { d.withoutImports.withManager r
            (c.run (d.manager r) (d.now r) d.entropy).manager.withoutImports with
          entropy := (c.run (d.manager r) (d.now r) d.entropy).entropy } :=
    congrArg (fun x : Deployment => { x with
        entropy := (c.run (d.manager r) (d.now r) d.entropy).entropy, log := #[] })
      (withoutImports_withManager d r _)
  rw [hrun, hrun, hsame, hnow, hentropy, hmade, hleft]

theorem registry_of_withoutImports (h : d'.withoutImports = d.withoutImports) (r : RegistryRef) :
    d'.registry r = d.registry r :=
  congrArg (·.registry r) h

theorem steady_addPool (r : RegistryRef) (pool : String) (m : ManagerRef) :
    Steady (addPool r pool m) := by
  intro d d' hsame
  rw [run_addPool, run_addPool, registry_of_withoutImports hsame]
  cases (d.registry r).add pool m with
  | error e => exact hsame
  | ok x => exact congrArg (·.withRegistry r x) hsame

theorem steady_removePool (r : RegistryRef) (pool : String) : Steady (removePool r pool) := by
  intro d d' hsame
  rw [run_removePool, run_removePool, registry_of_withoutImports hsame]
  cases (d.registry r).remove pool with
  | error e => exact hsame
  | ok removed => exact congrArg (·.withRegistry r removed.2) hsame

theorem steady_pool (r : RegistryRef) (call : PoolCall) : Steady (call.run r) := by
  cases call with
  | add pool m => exact steady_addPool r pool m
  | remove pool => exact steady_removePool r pool
  | importKeys pool e => exact (onlyImports_importAt e (.pool r pool)).steady
  | ask q => exact (onlyImports_ask q (.registry r)).steady

theorem run_enroll {role : Role} {s : Settings} {time : TimeSource} {creation : Manager.Creation}
    (h : Manager.create role s (d.timeOf time) d.entropy = creation) :
    (enroll role s time).run d =
      match creation.result with
      | .error e => (.error e, { d with
          entropy := creation.entropy
          log := d.log ++ creation.events.toArray })
      | .ok m => (.ok ⟨d.members.size⟩, { d with
          members := d.members.push ⟨m, time⟩
          entropy := creation.entropy
          log := d.log ++ creation.events.toArray }) := by
  subst h
  show (match (Manager.create role s (d.timeOf time) d.entropy).result with
    | .error e => _
    | .ok m => _ : Deploy _) { d with
      entropy := (Manager.create role s (d.timeOf time) d.entropy).entropy
      log := d.log ++ (Manager.create role s (d.timeOf time) d.entropy).events.toArray } = _
  cases (Manager.create role s (d.timeOf time) d.entropy).result <;> rfl

/-- A new manager is made in the same way. -/
theorem steady_enroll (role : Role) (s : Settings) (time : TimeSource) :
    Steady (enroll role s time) := by
  intro d d' hsame
  have htime : d'.timeOf time = d.timeOf time := by
    cases time with
    | clock c => exact congrArg (·.clockTime c) hsame
    | system => exact congrArg (·.systemTime) hsame
  have hentropy : d'.entropy = d.entropy := congrArg (·.entropy) hsame
  have hcreation : Manager.create role s (d'.timeOf time) d'.entropy
      = Manager.create role s (d.timeOf time) d.entropy := by rw [htime, hentropy]
  rw [run_enroll hcreation, run_enroll rfl]
  generalize Manager.create role s (d.timeOf time) d.entropy = creation
  cases creation.result with
  | error e => exact congrArg (fun x : Deployment => { x with entropy := creation.entropy }) hsame
  | ok m =>
    have hpushed (d : Deployment) (log : Array Event) :
        { d with
            members := d.members.push ⟨m, time⟩
            entropy := creation.entropy
            log : Deployment }.withoutImports
          = { d.withoutImports with
              members := d.withoutImports.members.push ⟨m.withoutImports, time⟩
              entropy := creation.entropy } := by
      simp only [withoutImports, viewed, Array.map_push]
    refine (hpushed d' _).trans (Eq.trans ?_ (hpushed d _).symm)
    rw [hsame]

end Deployment

/-- **No request goes by the keys that slaves have taken over,** as far as it changes anything else
than keys of slaves. -/
theorem Request.steady (request : Request) : Steady request.run := by
  cases request with
  | rotate r => exact steady_call .rotate r
  | rotateIfDue r => exact steady_call .rotateIfDue r
  | importKeys r e => exact (onlyImports_importKeys r e).steady
  | pool r call => exact steady_pool r call
  | ask r q => exact (onlyImports_ask q (.manager r)).steady
  | exportKeys r => exact fun _ _ hsame => hsame
  | isDue r => exact fun _ _ hsame => hsame
  | setClock c t =>
    exact fun _ _ hsame => congrArg (fun x : Deployment =>
      { x with clocks := x.clocks.setIfInBounds c.index t }) hsame
  | setSystemTime t =>
    exact fun _ _ hsame => congrArg (fun x : Deployment => { x with systemTime := t }) hsame

namespace Deployment

variable {d d' d₁ d₂ : Deployment} {e : KeyExport} {q r : ManagerRef} {target : Target}
  {reached targets : List Target}

/-! ## What targets answer -/

/-- What a target answers if it is the only one to which the keys are delivered. -/
def offer (d : Deployment) (e : KeyExport) (target : Target) : Except AccessError Unit :=
  ((importAt e target).run d).1

theorem offer_eq (d : Deployment) (e : KeyExport) (target : Target) :
    d.offer e target = match d.resolve target with
      | .error error => .error error
      | .ok r => ((d.manager r).importKeys (d.now r) e).map fun _ => () := by
  rw [offer, run_importAt]
  cases d.resolve target with
  | error error => rfl
  | ok r =>
    simp only [run_importKeys]
    cases (d.manager r).importKeys (d.now r) e <;> rfl

theorem resolve_of_withoutImports (h : d'.withoutImports = d.withoutImports) (target : Target) :
    d'.resolve target = d.resolve target := by
  cases target with
  | manager r => rfl
  | pool registry name => simp only [resolve, registry_of_withoutImports h]

/-- The keys that a manager has do not matter when it imports. -/
theorem importKeys_of_withoutImports (h : d'.withoutImports = d.withoutImports) (q : ManagerRef)
    (e : KeyExport) :
    (d'.manager q).importKeys (d'.now q) e = (d.manager q).importKeys (d.now q) e := by
  obtain ⟨-, -, hmanagers⟩ := same_of_withoutImports h
  obtain ⟨hnow, hmanager⟩ := hmanagers q
  rw [hnow, Manager.importKeys_of_withoutImports hmanager]

/-- **Nor do they matter to what a target answers.** -/
theorem offer_of_withoutImports (h : d'.withoutImports = d.withoutImports) (e : KeyExport)
    (target : Target) : d'.offer e target = d.offer e target := by
  rw [offer_eq, offer_eq, resolve_of_withoutImports h]
  cases d.resolve target with
  | error error => rfl
  | ok r => simp only [importKeys_of_withoutImports h]

/-! ## How far a delivery comes -/

/-- **A target refuses and is left as it was, or the manager behind it imports the keys.** -/
theorem importAt_cases (e : KeyExport) (target : Target) (d : Deployment) :
    (∃ error, (importAt e target).run d = (.error error, d)) ∨
    ∃ r changed, d.resolve target = .ok r ∧
      (d.manager r).importKeys (d.now r) e = .ok changed ∧
      (importAt e target).run d = (.ok (), { d.withManager r changed with
        log := d.log ++ ((d.manager r).importEvents (d.now r) e).toArray }) := by
  rw [run_importAt]
  cases d.resolve target with
  | error error => exact .inl ⟨error, rfl⟩
  | ok r =>
    simp only [run_importKeys]
    cases himport : (d.manager r).importKeys (d.now r) e with
    | error error => exact .inl ⟨error, rfl⟩
    | ok changed => exact .inr ⟨r, changed, rfl, himport, rfl⟩

theorem serves_append :
    d.Serves (reached ++ targets) q ↔ d.Serves reached q ∨ d.Serves targets q := by
  simp only [Serves, List.mem_append, or_and_right, exists_or]

theorem serves_of_withoutImports (h : d'.withoutImports = d.withoutImports) :
    d'.Serves targets q ↔ d.Serves targets q := by
  simp only [Serves, resolve_of_withoutImports h]

/-- **A delivery has come so far:** the targets accept the keys, the managers behind them have taken
them over, and all other managers are as they were. -/
structure Reached (e : KeyExport) (d : Deployment) (targets : List Target) (d' : Deployment) :
    Prop where
  unseen : d'.withoutImports = d.withoutImports
  accepted (target : Target) (h : target ∈ targets) : d.offer e target = .ok ()
  served (q : ManagerRef) (hplace : q.index < d.members.size) (h : d.Serves targets q) :
    (d.manager q).importKeys (d.now q) e = .ok (d'.manager q)
  others (q : ManagerRef) (h : ¬ d.Serves targets q) : d'.manager q = d.manager q

namespace Reached

theorem nil (e : KeyExport) (d : Deployment) : Reached e d [] d where
  unseen := rfl
  accepted _ h := absurd h List.not_mem_nil
  served _ _ h := by
    obtain ⟨target, hmem, -⟩ := h
    cases hmem
  others _ _ := rfl

/-- A target that accepts is reached. -/
theorem single (h : (importAt e target).run d = (.ok (), d')) : Reached e d [target] d' := by
  have hunseen := onlyImports_importAt e target d
  have haccepted : d.offer e target = .ok () := congrArg Prod.fst h
  rw [h] at hunseen
  rcases importAt_cases e target d with ⟨error, hrefused⟩ | ⟨r, changed, hresolve, himport, hrun⟩
  · rw [hrefused] at h
    cases h
  rw [hrun] at h
  cases h
  have hserves (q : ManagerRef) : d.Serves [target] q ↔ r = q := by
    simp [Serves, hresolve]
  constructor
  case unseen => exact hunseen
  case accepted =>
    intro t ht
    rwa [List.mem_singleton.1 ht]
  case served =>
    intro q hplace hserved
    obtain rfl := (hserves q).1 hserved
    rw [himport]
    exact congrArg _ (manager_withManager hplace changed).symm
  case others =>
    intro q hother
    have hne : q ≠ r := fun hsame => hother ((hserves q).2 hsame.symm)
    exact congrArg Member.manager (member_withManager_of_ne hne changed)

/-- **A delivery that goes on from where another one has come to** has reached the targets of both.
A manager that both have served has the keys from the second, which are those of the first. -/
theorem append (h : Reached e d reached d₁) (h' : Reached e d₁ targets d₂) :
    Reached e d (reached ++ targets) d₂ := by
  constructor
  case unseen => exact h'.unseen.trans h.unseen
  case accepted =>
    intro target hmem
    rcases List.mem_append.1 hmem with hfirst | hlater
    · exact h.accepted target hfirst
    · rw [← offer_of_withoutImports h.unseen]
      exact h'.accepted target hlater
  case served =>
    intro q hplace hserved
    by_cases hlater : d.Serves targets q
    · obtain ⟨-, hsize, -⟩ := same_of_withoutImports h.unseen
      rw [← importKeys_of_withoutImports h.unseen]
      exact h'.served q (hsize.symm ▸ hplace) ((serves_of_withoutImports h.unseen).2 hlater)
    · have hfirst := (serves_append.1 hserved).resolve_right hlater
      rw [h'.others q (mt (serves_of_withoutImports h.unseen).1 hlater)]
      exact h.served q hplace hfirst
  case others =>
    intro q hother
    have hfirst : ¬ d.Serves reached q := fun hserved => hother (serves_append.2 (.inl hserved))
    have hlater : ¬ d.Serves targets q := fun hserved => hother (serves_append.2 (.inr hserved))
    rw [h'.others q (mt (serves_of_withoutImports h.unseen).1 hlater), h.others q hfirst]

end Reached

/-- **A delivery comes to the end of its targets, or to the first that refuses.** -/
theorem distribute_cases (e : KeyExport) (targets : List Target) (d : Deployment) :
    (∃ d', (distribute e targets).run d = (.ok (), d') ∧ Reached e d targets d') ∨
    ∃ reached target rest error d', targets = reached ++ target :: rest ∧
      (distribute e targets).run d = (.error error, d') ∧ Reached e d reached d' ∧
      d.offer e target = .error error := by
  induction targets generalizing d with
  | nil => exact .inl ⟨d, rfl, .nil e d⟩
  | cons target rest ih =>
    rcases importAt_cases e target d with ⟨error, hrun⟩ | ⟨r, changed, -, -, hrun⟩
    · exact .inr ⟨[], target, rest, error, d, rfl, run_distribute_of_refused hrun rest,
        .nil e d, congrArg Prod.fst hrun⟩
    · have hfirst := Reached.single hrun
      rw [run_distribute_of_accepted hrun]
      rcases ih _ with ⟨d', hrest, hreached⟩ |
        ⟨reached, refusing, later, error, d', rfl, hrest, hreached, hrefused⟩
      · exact .inl ⟨d', hrest, hfirst.append hreached⟩
      · refine .inr ⟨target :: reached, refusing, later, error, d', rfl, hrest,
          hfirst.append hreached, ?_⟩
        rw [← offer_of_withoutImports hfirst.unseen]
        exact hrefused

/-! ## Attempts and what is done between them -/

/-- **In the first deployment keys are delivered in between, and in the second they are not.**
Everything else is done in both, in the same order. It does not matter whose keys are delivered in
an attempt, when, to which targets, and which of them refuse. -/
inductive Retried : Deployment → Deployment → Prop
  | start (d : Deployment) : Retried d d
  | attempt {d d' : Deployment} (e : KeyExport) (targets : List Target) (h : Retried d d') :
      Retried ((distribute e targets).run d).2 d'
  | request {d d' : Deployment} (request : Request) (h : Retried d d') :
      Retried (request.run.run d).2 (request.run.run d').2
  | enroll {d d' : Deployment} (role : Role) (s : Settings) (time : TimeSource)
      (h : Retried d d') :
      Retried ((enroll role s time).run d).2 ((enroll role s time).run d').2

/-- **Attempts leave no trace but keys of slaves.** -/
theorem Retried.withoutImports_eq (h : Retried d d') : d.withoutImports = d'.withoutImports := by
  induction h with
  | start d => rfl
  | attempt e targets _ ih => exact (onlyImports_distribute e targets _).trans ih
  | request request _ ih => exact request.steady _ _ ih
  | enroll role s time _ ih => exact steady_enroll role s time _ _ ih

/-- **A delivery that all targets accept gets through.** -/
theorem reached_of_accepted (h : ∀ target ∈ targets, d.offer e target = .ok ()) :
    ∃ d', (distribute e targets).run d = (.ok (), d') ∧ Reached e d targets d' := by
  rcases distribute_cases e targets d with hdone |
    ⟨reached, target, rest, error, d', rfl, -, -, hrefused⟩
  · exact hdone
  · have haccepted := h target (List.mem_append_right _ List.mem_cons_self)
    rw [hrefused] at haccepted
    cases haccepted

/-- **Where a delivery gets through, the keys are the same,** whatever was attempted before. -/
theorem Reached.manager_eq (h : Reached e d targets d₁) (h' : Reached e d' targets d₂)
    (hunseen : d'.withoutImports = d.withoutImports) (hplace : q.index < d.members.size)
    (hserved : d.Serves targets q) : d₁.manager q = d₂.manager q := by
  obtain ⟨-, hsize, -⟩ := same_of_withoutImports hunseen
  have hheld := h.served q hplace hserved
  have hheld' := h'.served q (hsize.symm ▸ hplace) ((serves_of_withoutImports hunseen).2 hserved)
  rw [importKeys_of_withoutImports hunseen, hheld] at hheld'
  exact Except.ok.inj hheld'

/-- **A delivery may be repeated until it gets through.** It is accepted if and only if each target
accepts the keys by itself. Otherwise it comes back with the refusal of the first target that
refuses; the managers behind the targets before that one have imported the keys, and all others are
as they were. And once all targets accept, it leaves the managers behind them as it would have left
them had nothing been delivered before: with the keys that they import then.

A target is a manager or a pool of a registry; the slaves of a deployment and the pools after them
are one list of targets. Managers may be meant by several targets, may be masters, and pools may be
missing. Between the attempts pools may be registered, clocks moved, keys rotated and managers
added. -/
theorem distribution_resumable (e : KeyExport) (targets : List Target) :
    (∀ d : Deployment, ((distribute e targets).run d).1 = .ok () ↔
      ∀ target ∈ targets, d.offer e target = .ok ()) ∧
    (∀ (d : Deployment) (error : AccessError) (d' : Deployment),
      (distribute e targets).run d = (.error error, d') →
        ∃ reached target rest, targets = reached ++ target :: rest ∧
          (∀ earlier ∈ reached, d.offer e earlier = .ok ()) ∧
          d.offer e target = .error error ∧
          (∀ q, q.index < d.members.size → d.Serves reached q →
            (d.manager q).importKeys (d.now q) e = .ok (d'.manager q)) ∧
          ∀ q, ¬ d.Serves reached q → d'.manager q = d.manager q) ∧
    ∀ d d' : Deployment, Retried d d' → (∀ target ∈ targets, d.offer e target = .ok ()) →
      ∃ d₁ d₁', (distribute e targets).run d = (.ok (), d₁) ∧
        (distribute e targets).run d' = (.ok (), d₁') ∧
        ∀ q, q.index < d.members.size → d.Serves targets q →
          d₁.manager q = d₁'.manager q ∧
          (d.manager q).importKeys (d.now q) e = .ok (d₁.manager q) := by
  refine ⟨fun d => ⟨fun hdone => ?_, fun haccepted => ?_⟩, fun d error d' hrun => ?_,
    fun d d' hretried haccepted => ?_⟩
  · rcases distribute_cases e targets d with ⟨d', -, hreached⟩ |
      ⟨reached, target, rest, error, d', rfl, hrun, -, -⟩
    · exact hreached.accepted
    · rw [hrun] at hdone
      cases hdone
  · obtain ⟨d', hrun, -⟩ := reached_of_accepted haccepted
    exact congrArg Prod.fst hrun
  · rcases distribute_cases e targets d with ⟨d₁, hdone, -⟩ |
      ⟨reached, target, rest, refusal, d₁, rfl, hrefused, hreached, hrefusal⟩
    · rw [hdone] at hrun
      cases hrun
    · rw [hrefused] at hrun
      cases hrun
      exact ⟨reached, target, rest, rfl, hreached.accepted, hrefusal, hreached.served,
        hreached.others⟩
  · have hunseen := hretried.withoutImports_eq.symm
    have haccepted' : ∀ target ∈ targets, d'.offer e target = .ok () := fun target hmem =>
      (offer_of_withoutImports hunseen e target).trans (haccepted target hmem)
    obtain ⟨d₁, hrun, hreached⟩ := reached_of_accepted haccepted
    obtain ⟨d₁', hrun', hreached'⟩ := reached_of_accepted haccepted'
    exact ⟨d₁, d₁', hrun, hrun', fun q hplace hserved =>
      ⟨hreached.manager_eq hreached' hunseen hplace hserved, hreached.served q hplace hserved⟩⟩

/-- Two slaves, and a registry without pools. -/
def unregistered : Deployment :=
  { empty ⟨0⟩ with
    members := .replicate 2 ⟨.ofSettings .slave .standard (.empty ⟨0⟩ 1 1) 0, .system⟩
    registries := #[.empty] }

/-- The first slave twice, and in between a pool. -/
def interleaved : List Target := [.manager ⟨0⟩, .pool ⟨0⟩ "right", .manager ⟨0⟩]

/-- A key, and no other. -/
def singleKey : KeyExport := ⟨600000, 600000, ⟨1, ⟨1200000⟩, .replicate 64 0⟩, []⟩

/-- A delivery of it comes no further than to the first slave. -/
def attempted : Deployment := ((distribute singleKey interleaved).run unregistered).2

/-- Makes the second slave the manager of the pool. -/
def register : Request := .pool ⟨0⟩ (.add "right" ⟨1⟩)

/-- The first attempt is refused for want of the pool, and gives keys to the first slave only. Once
the pool is registered, the second attempt gives both slaves what a single one would have given. -/
theorem distribution_resumable_after_registration :
    (distribute singleKey interleaved).run unregistered
        = (.error (.unknownPool "right"), attempted) ∧
      (unregistered.manager ⟨0⟩).importKeys ⟨0⟩ singleKey = .ok (attempted.manager ⟨0⟩) ∧
      attempted.manager ⟨1⟩ = unregistered.manager ⟨1⟩ ∧
      ∃ d d', (distribute singleKey interleaved).run (register.run.run attempted).2
          = (.ok (), d) ∧
        (distribute singleKey interleaved).run (register.run.run unregistered).2 = (.ok (), d') ∧
        ∀ q, q = ⟨0⟩ ∨ q = ⟨1⟩ →
          d.manager q = d'.manager q ∧ (d.manager q).window.current? = some singleKey.current := by
  obtain ⟨-, hrefusals, hrepeated⟩ := distribution_resumable singleKey interleaved
  have hrefused : (distribute singleKey interleaved).run unregistered
      = (.error (.unknownPool "right"), attempted) := rfl
  obtain ⟨reached, target, rest, hsplit, haccepted, hrefusal, hserved, hothers⟩ :=
    hrefusals _ _ _ hrefused
  have hreached : reached = [.manager ⟨0⟩] := by
    rcases reached with _ | ⟨first, _ | ⟨second, later⟩⟩
    · cases hsplit
      cases hrefusal
    · cases hsplit
      rfl
    · simp only [interleaved, List.cons_append, List.cons.injEq] at hsplit
      obtain ⟨-, rfl, -⟩ := hsplit
      cases haccepted _ (.tail _ (.head _))
  subst hreached
  have hother : ¬ unregistered.Serves [.manager ⟨0⟩] ⟨1⟩ := by
    rintro ⟨target, hmem, hmeant⟩
    obtain rfl := List.mem_singleton.1 hmem
    cases hmeant
  refine ⟨hrefused, hserved ⟨0⟩ (by decide) ⟨_, .head _, rfl⟩, hothers ⟨1⟩ hother, ?_⟩
  have hretried : Retried (register.run.run attempted).2 (register.run.run unregistered).2 :=
    (Retried.attempt singleKey interleaved (.start unregistered)).request register
  have haccepted : ∀ target ∈ interleaved,
      (register.run.run attempted).2.offer singleKey target = .ok () := by
    intro target hmem
    simp only [interleaved, List.mem_cons, List.not_mem_nil, or_false] at hmem
    rcases hmem with rfl | rfl | rfl <;> rfl
  obtain ⟨d, d', hrun, hrun', hsame⟩ := hrepeated _ _ hretried haccepted
  refine ⟨d, d', hrun, hrun', fun q hq => ?_⟩
  have hserved : (register.run.run attempted).2.Serves interleaved q := by
    rcases hq with rfl | rfl
    · exact ⟨.manager ⟨0⟩, .head _, rfl⟩
    · exact ⟨.pool ⟨0⟩ "right", .tail _ (.head _), rfl⟩
  have hplace : q.index < (register.run.run attempted).2.members.size := by
    rcases hq with rfl | rfl <;> decide
  obtain ⟨heq, himported⟩ := hsame q hplace hserved
  obtain ⟨-, hwindow⟩ := Manager.eq_of_importKeys himported
  exact ⟨heq, by rw [hwindow]; rfl⟩

end Deployment

end BlockAccess
