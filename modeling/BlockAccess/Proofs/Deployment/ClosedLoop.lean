import BlockAccess.Proofs.Deployment.InStep
import BlockAccess.Proofs.Exchange.Capacity
import BlockAccess.Proofs.Exchange.NextKey

/-!
# Master, task and slaves as a closed loop

A task polls its master and has its slaves import whatever the master has changed. The keys come to
the slaves one after the other, while clocks move and tokens are minted and checked everywhere. So
until an import has taken place, a slave has the keys from before the last poll. What it is to
accept then can only be said with respect to the poll before: it has no way to know that the master
has extended a key since. It does accept what the master signs with its new key, which it has been
given ahead of time. Once it has imported, all that is known of a polled master carries over to it,
but for one thing. The retained keys of a slave begin with the key that will be next, so that every
retired key stands one place further back than in the window of the master, and the cap of a slave
must be greater by one for it to be kept.

What a slave signs while it is behind is good for a lifetime from then on, but the key that it signs
with is kept by the master for a lifetime from the poll only. So of a token that was minted behind
the master nothing is said here after that time.

## Main results

* `MasterWindow.mem_ofExport_of_retiredWithin` — which retired keys an importer keeps.
* `Loop.candidate` — the key of a token is a candidate of the master and of all slaves.
* `accepts_in_closed_loop` — master and slaves accept what any of them has minted.
* `closed_loop_refuses` — a slave that is behind refuses what has outlived its copy of the key, and
  what it has minted does not outlive the key of the master.
-/

namespace BlockAccess

/-! ## The key that has signed -/

/-- **An importer keeps the keys that were retired within the last `n` rotations** and are still
needed, if its cap is above `n`: the next key comes before them. -/
theorem MasterWindow.mem_ofExport_of_retiredWithin {s : Settings} {m : Manager}
    {current next : BlockKey} (h : MasterWindow s m current next) {n : Nat} {secret : List UInt8}
    {deadline now : Instant} (hretired : m.window.RetiredWithin n secret deadline)
    (hnow : now ≤ deadline) {limit : Nat} (hlimit : n + 1 ≤ limit) :
    ∃ k ∈ (KeyWindow.ofExport ⟨s.interval, s.lifetime, current, next :: m.window.retained⟩ now
      limit).keys, k.secret = secret ∧ deadline ≤ k.expiry := by
  obtain ⟨k, hmem, hsecret, hexpiry⟩ := hretired
  have hgood : (!k.isExpired now) = true :=
    BlockKey.not_isExpired_iff.2 (Instant.le_trans hnow hexpiry)
  have hbehind : k ∈ (next :: m.window.retained).take (n + 1) := by
    rw [List.take_succ_cons]
    exact List.mem_cons_of_mem _ hmem
  have hkept := mem_take_filter (p := fun k : BlockKey => !k.isExpired now) hgood _ _ hbehind
  refine ⟨k, ?_, hsecret, hexpiry⟩
  rw [KeyWindow.keys_ofExport h.export_descending]
  exact List.mem_cons_of_mem _ ((List.take_prefix_take_left hlimit).subset hkept)

/-- **The key that was current at `t` is still there at `t'`,** in the life of what it signed: it is
current and good, or it was retired no more rotations ago than there are intervals in a lifetime,
and one. -/
theorem PollRun.current_or_retiredWithin {s : Settings} {t t' p p' : Instant} {m m' : Manager}
    {n : Nat} {current next : BlockKey} (hrun : PollRun t p m n p' m')
    (h : MasterWindow s m current next) (hdue : m.window.isDue p = false)
    (hroom : 1 + s.lifetime.toNat / s.interval.toNat ≤ s.maxRetained.toNat) (htime : t ≤ t')
    (hpolled : p' ≤ t') (hrecent : t' ≤ p'.after s.lifetime) (hlife : t' ≤ t.after s.lifetime) :
    (m'.window.current? = some current ∧ t' ≤ current.expiry) ∨
      m'.window.RetiredWithin (1 + s.lifetime.toNat / s.interval.toNat) current.secret
        (t.after s.lifetime) := by
  have hspan : p'.toInt ≤ t.toInt + s.lifetime.toNat := by
    rw [Instant.le_iff_toInt_le, Instant.toInt_after] at hlife
    rw [Instant.le_iff_toInt_le] at hpolled
    omega
  have hcount := hrun.count_le h hspan
  obtain ⟨t₁, hcalls, hle⟩ := hrun.rotationRun
  have hend := Instant.le_trans (hle t' htime hpolled) hlife
  rcases hcalls.window_or_retiredWithin h (Nat.le_trans hcount hroom) hend with
    ⟨-, hwindow⟩ | ⟨-, hretired⟩
  · have hnow := hrun.isDue h hdue
    rw [hwindow] at hnow
    exact .inl ⟨hwindow ▸ h.current?, h.le_current_expiry hnow hrecent⟩
  · exact .inr (hretired.mono hcount)

/-- Where nothing is due at `p`, the next key is good for a lifetime from `p` on. -/
theorem MasterWindow.le_next_expiry {s : Settings} {m : Manager} {current next : BlockKey}
    (h : MasterWindow s m current next) {p t : Instant} (hdue : m.window.isDue p = false)
    (hrecent : t ≤ p.after s.lifetime) : t ≤ next.expiry := by
  have hearly := (KeyWindow.isDue_eq_false_iff h.current?).1 hdue
  rw [Instant.lt_iff_toInt_lt, KeyWindow.dueAt, h.interval] at hearly
  have hsoon : p ≤ m.window.currentSince.after s.interval := Int.le_of_lt hearly
  exact Instant.le_trans hrecent
    (h.after_lifetime_le_next_expiry (Instant.le_trans hsoon (Instant.le_after _ _)))

namespace Deployment

variable {d : Deployment} {t : TaskRef} {r q : ManagerRef} {targets : List Target} {s : Settings}
  {polls later earlier : List Poll} {signed : Poll} {x : Course} {m : Manager}
  {current next : BlockKey} {since : Instant}

/-! ## The keys of a node -/

/-- **A node has the keys of `m`:** it is `m`, or has imported them. -/
def Keyed (d : Deployment) (q : ManagerRef) (m : Manager) : Prop :=
  d.manager q = m ∨ d.Holds q m

namespace Keyed

/-- It signs with the same key, for the same lifetime. -/
theorem signs (h : d.Keyed q m) (hmaster : MasterWindow s m current next) :
    (d.manager q).window.current? = some current ∧
      (d.manager q).window.lifetime = s.lifetime := by
  rcases h with rfl | ⟨e, imported, hexport, -, hwindow⟩
  · exact ⟨hmaster.current?, hmaster.lifetime⟩
  · rw [hmaster.exportKeys] at hexport
    cases hexport
    rw [hwindow]
    exact ⟨rfl, rfl⟩

theorem current?_eq (h : d.Keyed q m) (hmaster : MasterWindow s m current next) :
    (d.manager q).window.current? = m.window.current? :=
  (h.signs hmaster).1.trans hmaster.current?.symm

/-- **What is still needed of the keys of `m` is a candidate,** if there is room for it. -/
theorem candidate (h : d.Keyed q m) (hmaster : MasterWindow s m current next) {n : Nat}
    {k : BlockKey} {deadline : Instant}
    (hkey : (m.window.current? = some k ∧ d.now q ≤ k.expiry) ∨
      m.window.RetiredWithin n k.secret deadline)
    (hdeadline : d.now q ≤ deadline)
    (hroom : d.manager q = m ∨ n + 1 ≤ (d.manager q).maxRetained) :
    ∃ k' ∈ (d.manager q).window.candidates (d.now q), k'.secret = k.secret := by
  rcases hkey with ⟨hcurrent, hgood⟩ | hretired
  · obtain rfl : current = k := Option.some.inj (hmaster.current?.symm.trans hcurrent)
    exact ⟨current, KeyWindow.current_mem_candidates (h.signs hmaster).1 hgood, rfl⟩
  by_cases hsame : d.manager q = m
  · rw [hsame]
    exact hretired.candidate hdeadline
  obtain ⟨e, imported, hexport, himported, hwindow⟩ := h.resolve_left hsame
  rw [hmaster.exportKeys] at hexport
  cases hexport
  obtain ⟨k', hmem, hsecret, hexpiry⟩ := hmaster.mem_ofExport_of_retiredWithin hretired
    (Instant.le_trans himported hdeadline) (hroom.resolve_left hsame)
  rw [hwindow]
  exact ⟨k', KeyWindow.mem_candidates.2 ⟨hmem, Instant.le_trans hdeadline hexpiry⟩, hsecret⟩

end Keyed

/-- A slave that has the keys of `m` has the next one among them. -/
theorem Holds.next_candidate (h : d.Holds q m) (hmaster : MasterWindow s m current next)
    (hgood : d.now q ≤ next.expiry) (hroom : 1 ≤ (d.manager q).maxRetained) :
    next ∈ (d.manager q).window.candidates (d.now q) := by
  obtain ⟨e, imported, hexport, himported, hwindow⟩ := h
  rw [hmaster.exportKeys] at hexport
  cases hexport
  have hmem := hmaster.next_mem_ofExport (Instant.le_trans himported hgood) hroom
  rw [hwindow]
  exact KeyWindow.mem_candidates.2 ⟨hmem, hgood⟩

/-! ## How far the keys have come -/

/-- Whether a node signs with the key that the master signs with. -/
def InStep (d : Deployment) (r q : ManagerRef) : Prop :=
  (d.manager q).window.current? = (d.manager r).window.current?

instance (d : Deployment) (r q : ManagerRef) : Decidable (d.InStep r q) :=
  inferInstanceAs (Decidable (_ = _))

end Deployment

/-- **The turns of a task as far as their keys have come to `q`:** all of them if it is in step with
the master, and otherwise all but the one that is under way. -/
def Course.seenBy (x : Course) (r q : ManagerRef) : List Turn :=
  if x.deployment.InStep r q then x.turns else x.turns.tail

variable {d : Deployment} {t : TaskRef} {r q : ManagerRef} {targets : List Target} {s : Settings}
  {polls later earlier : List Poll} {signed latest before : Poll} {x : Course}
  {current next : BlockKey} {since : Instant}

/-- **A poll leaves the master as it was, or it promotes the next key.** -/
theorem Poll.Follows.promoted (h : latest.Follows before)
    (hmaster : MasterWindow s before.manager current next) :
    latest.manager = before.manager ∨
      (latest.manager.window.current? ≠ before.manager.window.current? ∧
        ∃ k, latest.manager.window.current? = some k ∧ k.secret = next.secret) := by
  obtain ⟨-, -, entropy, rotated, hresult, hmanager⟩ := h
  rcases hmaster.poll_cases hresult with ⟨-, -, secret, hrenewed⟩ | ⟨-, -, hkept⟩
  · rw [hmanager, hrenewed]
    refine .inr ⟨fun hsame => ?_, _, rfl, rfl⟩
    rw [hmaster.current?] at hsame
    obtain rfl : next.extendedTo _ = current := Option.some.inj hsame
    exact UInt32.lt_irrefl _ hmaster.current_lt_next
  · exact .inl (hmanager.trans hkept)

namespace Deployment.Loop

/-- A tick that is under way after the first one has made the second of two polls. -/
private theorem second_of_underWay (h : Loop s t r targets polls x)
    (hfirst : Turn.lastAccepted? x.turns ≠ none) {task : RotationTask}
    (hway : x.phase.task? = some task) :
    ∃ latest before older, polls = latest :: before :: older := by
  obtain ⟨time, rotated, turns, hturns, -⟩ := (h.delivering.underWay task hway).turn
  have htimes := h.times
  rw [hturns] at hfirst htimes
  rcases turns with _ | ⟨turn, earlier⟩
  · exact absurd rfl hfirst
  rcases polls with _ | ⟨latest, _ | ⟨before, older⟩⟩
  · cases htimes
  · cases htimes
  · exact ⟨latest, before, older, rfl⟩

/-- **Where a node stands,** once the first tick is over: it has the keys of the last poll, or it is
behind, and has those of the poll before. -/
theorem standing (h : Loop s t r targets polls x)
    (hfirst : Turn.lastAccepted? x.turns ≠ none)
    (hq : q = r ∨ x.deployment.Serves targets q) :
    (x.deployment.InStep r q ∧ ∃ latest older, polls = latest :: older ∧
      x.deployment.Keyed q latest.manager) ∨
    (¬ x.deployment.InStep r q ∧ ∃ latest before older, polls = latest :: before :: older ∧
      latest.manager.window.current? ≠ before.manager.window.current? ∧
      x.deployment.Serves targets q ∧ x.deployment.Holds q before.manager) := by
  obtain ⟨current, next, hmaster⟩ := h.delivering.master
  obtain ⟨latest, older, rfl⟩ : ∃ latest older, polls = latest :: older := by
    refine List.exists_cons_of_ne_nil fun hnil => hfirst ?_
    rw [List.map_eq_nil_iff.1 (h.times.trans (by rw [hnil]; rfl))]
    rfl
  obtain ⟨hpresent, -⟩ := h.latest latest rfl
  by_cases hne : q = r
  · subst hne
    exact .inl ⟨rfl, latest, older, rfl, .inl hpresent.symm⟩
  have hserved := hq.resolve_left hne
  rcases h.served (List.cons_ne_nil _ _) q hne hserved with hholds | ⟨⟨target, hmem, -⟩, hbehind⟩
  · have hkeyed : x.deployment.Keyed q (x.deployment.manager r) := .inr hholds
    exact .inl ⟨hkeyed.current?_eq hmaster, latest, older, rfl, .inr (hpresent ▸ hholds)⟩
  obtain ⟨task, hway⟩ := Phase.exists_task_of_outstanding hmem
  obtain ⟨_, before, older, hpolls⟩ := h.second_of_underWay hfirst hway
  cases hpolls
  have hholds := hbehind before rfl
  obtain ⟨⟨current', next', hbefore⟩, -⟩ := h.history.settled before (by simp)
  have hkeyed : x.deployment.Keyed q before.manager := .inr hholds
  have hfollows := (List.isChain_cons_cons.1 h.history.chain).1
  rcases hfollows.promoted hbefore with hkept | ⟨hother, -⟩
  · -- The poll has changed nothing.
    refine .inl ⟨?_, latest, _, rfl, .inr (hkept ▸ hholds)⟩
    rw [InStep, hkeyed.current?_eq hbefore, ← hpresent, hkept]
  · refine .inr ⟨fun hstep => hother ?_, latest, before, older, rfl, hother, hserved, hholds⟩
    rw [hpresent, ← hkeyed.current?_eq hbefore]
    exact hstep.symm

/-- The polls of the turns that have come to a node. -/
private theorem times_seenBy (h : Loop s t r targets polls x) :
    (x.seenBy r q).map Turn.time
      = (if x.deployment.InStep r q then polls else polls.tail).map Poll.time := by
  rw [Course.seenBy]
  split
  · exact h.times
  · rw [List.map_tail, List.map_tail, h.times]

/-- What holds of the last turn that has come to a node holds of its poll. -/
private theorem recent_of_seenBy (h : Loop s t r targets polls x) {now : Instant}
    (hseen : ∀ last, (x.seenBy r q).head? = some last → now ≤ last.time.after s.lifetime)
    (hpolls : (if x.deployment.InStep r q then polls else polls.tail) = latest :: earlier) :
    now ≤ latest.time.after s.lifetime := by
  have htimes := h.times_seenBy (q := q)
  rw [hpolls] at htimes
  obtain ⟨last, _, hturns, htime, -⟩ := List.map_eq_cons_iff.1 htimes
  rw [← htime]
  exact hseen last (by rw [hturns]; rfl)

/-- A key that has signed is a candidate of a node with the keys of a later poll, if that was no
more than a lifetime ago. -/
private theorem candidate_of_keyed (h : Loop s t r targets polls x)
    (hroom : 1 + s.lifetime.toNat / s.interval.toNat ≤ s.maxRetained.toNat)
    (hhistory : PollHistory s (later ++ signed :: earlier))
    (hlatest : (later ++ signed :: earlier).head? = some latest)
    (hsigned : MasterWindow s signed.manager current next)
    (hsince : ∀ poll ∈ later, since ≤ poll.time)
    (hkeyed : x.deployment.Keyed q latest.manager)
    (hq : x.deployment.manager q = latest.manager ∨ x.deployment.Serves targets q)
    (hpolled : latest.time ≤ x.deployment.now q) (htime : since ≤ x.deployment.now q)
    (hlife : x.deployment.now q ≤ since.after s.lifetime)
    (hrecent : x.deployment.now q ≤ latest.time.after s.lifetime) :
    ∃ k ∈ (x.deployment.manager q).window.candidates (x.deployment.now q),
      k.secret = current.secret := by
  obtain ⟨n, hrun⟩ := hhistory.pollRun hsince hlatest
  obtain ⟨-, hdue⟩ := hhistory.settled signed (List.mem_append_right _ List.mem_cons_self)
  obtain ⟨_, _, hmaster⟩ := hrun.masterWindow hsigned
  have hkey := hrun.current_or_retiredWithin hsigned hdue hroom htime hpolled hrecent hlife
  refine hkeyed.candidate hmaster hkey hlife (hq.imp_right fun hserved => ?_)
  have hslave := (h.room q hserved).1
  omega

/-- **A key that has signed is a candidate of the master and of all slaves** for a lifetime from
`since` on, up to which the master has had it as its current key, and for no more than a lifetime
after the last turn that has come to them. -/
theorem candidate (h : Loop s t r targets (later ++ signed :: earlier) x)
    (hroom : 1 + s.lifetime.toNat / s.interval.toNat ≤ s.maxRetained.toNat)
    (hfirst : Turn.lastAccepted? x.turns ≠ none)
    (hsigned : MasterWindow s signed.manager current next)
    (hsince : ∀ poll ∈ later, since ≤ poll.time)
    (hq : q = r ∨ x.deployment.Serves targets q)
    (htime : since ≤ x.deployment.now q)
    (hlife : x.deployment.now q ≤ since.after s.lifetime)
    (hseen : ∀ last, (x.seenBy r q).head? = some last →
      x.deployment.now q ≤ last.time.after s.lifetime) :
    ∃ k ∈ (x.deployment.manager q).window.candidates (x.deployment.now q),
      k.secret = current.secret := by
  have hnow := h.now_eq hq
  rcases h.standing hfirst hq with ⟨hstep, latest, older, hpolls, hkeyed⟩ |
    ⟨hbehind, latest, before, older, hpolls, hother, hserved, hholds⟩
  · have hlatest : (later ++ signed :: earlier).head? = some latest := by rw [hpolls]; rfl
    obtain ⟨hpresent, hpolled⟩ := h.latest latest hlatest
    have hrecent := h.recent_of_seenBy hseen (by rw [if_pos hstep, hpolls])
    exact h.candidate_of_keyed hroom h.history hlatest hsigned hsince hkeyed
      (hq.imp_left fun hself => by rw [hself, hpresent]) (hnow ▸ hpolled) htime hlife hrecent
  have hrecent : x.deployment.now q ≤ before.time.after s.lifetime :=
    h.recent_of_seenBy hseen (by rw [if_neg hbehind, hpolls]; rfl)
  cases later with
  | nil =>
    -- What was signed since the last poll was signed with the key that was next before.
    cases hpolls
    obtain ⟨⟨current', next', hbefore⟩, hdue⟩ := h.history.settled before (by simp)
    have hfollows := (List.isChain_cons_cons.1 h.history.chain).1
    obtain hkept | ⟨-, k, hcurrent, hsecret⟩ := hfollows.promoted hbefore
    · exact absurd (by rw [hkept]) hother
    obtain rfl : current = k := Option.some.inj (hsigned.current?.symm.trans hcurrent)
    exact ⟨next', hholds.next_candidate hbefore (hbefore.le_next_expiry hdue hrecent)
      (h.maxRetained_pos hserved), hsecret.symm⟩
  | cons newest rest =>
    obtain ⟨rfl, hrest⟩ := List.cons.inj hpolls
    have hlatest : (rest ++ signed :: earlier).head? = some before :=
      congrArg List.head? hrest
    have hhistory : PollHistory s (rest ++ signed :: earlier) :=
      ⟨h.history.chain.tail, fun poll hmem => h.history.settled poll (List.mem_cons_of_mem _ hmem)⟩
    have hfollows := (List.isChain_cons.1 h.history.chain).1 before hlatest
    have hpolled := Instant.le_trans hfollows.clock (h.latest newest rfl).2
    exact h.candidate_of_keyed hroom hhistory hlatest hsigned
      (fun poll hmem => hsince poll (List.mem_cons_of_mem _ hmem)) (.inr hholds) (.inr hserved)
      (hnow ▸ hpolled) htime hlife hrecent

/-- **What a node signs with:** it has the keys of a poll, and the master has had them up to
`since`. That is now, or, if the node is behind, the time of the last turn. -/
theorem signing (h : Loop s t r targets polls x)
    (hfirst : Turn.lastAccepted? x.turns ≠ none)
    (hq : q = r ∨ x.deployment.Serves targets q) :
    ∃ since later signed earlier, polls = later ++ signed :: earlier ∧
      x.deployment.Keyed q signed.manager ∧ since ≤ x.deployment.now r ∧
      (∀ poll ∈ later, since ≤ poll.time) ∧
      ∀ now, now ≤ (x.deployment.now r).after s.lifetime →
        (¬ x.deployment.InStep r q → ∀ last, x.turns.head? = some last →
          now ≤ last.time.after s.lifetime) → now ≤ since.after s.lifetime := by
  rcases h.standing hfirst hq with ⟨-, latest, older, rfl, hkeyed⟩ |
    ⟨hbehind, latest, before, older, rfl, -, -, hholds⟩
  · exact ⟨x.deployment.now r, [], latest, older, rfl, hkeyed, Instant.le_refl _,
      fun _ hmem => absurd hmem List.not_mem_nil, fun _ hnow _ => hnow⟩
  obtain ⟨last, _, hturns, htime, -⟩ := List.map_eq_cons_iff.1 h.times
  refine ⟨latest.time, [latest], before, older, rfl, .inr hholds, (h.latest latest rfl).2,
    fun poll hmem => ?_, fun now _ hlast => ?_⟩
  · rw [List.mem_singleton.1 hmem]
    exact Instant.le_refl _
  · rw [← htime]
    exact hlast hbehind last (by rw [hturns]; rfl)

end Deployment.Loop

/-- A delivery that was accepted stays among the turns. -/
theorem TaskStep.lastAccepted? {t : TaskRef} {x y : Course} (h : TaskStep t x y)
    (hbefore : Turn.lastAccepted? x.turns ≠ none) : Turn.lastAccepted? y.turns ≠ none := by
  have hcons (turn : Turn) {earlier : List Turn} (hearlier : Turn.lastAccepted? earlier ≠ none) :
      Turn.lastAccepted? (turn :: earlier) ≠ none := by
    rw [Turn.lastAccepted?_cons]
    cases turn.accepted? with
    | none => exact hearlier
    | some e => exact Option.some_ne_none e
  cases h with
  | stopped => exact hcons _ hbefore
  | quiet => exact hcons _ hbefore
  | answered => exact hcons _ hbefore
  | keyless => exact hbefore
  | exported => exact hbefore
  | rehearsed => exact hcons _ hbefore
  | imported => exact hbefore
  | refused => exact hcons _ hbefore
  | accepted => exact hcons _ hbefore

theorem TaskRun.lastAccepted? {between : Deployment → Deployment → Prop} {t : TaskRef}
    {x y : Course} (hrun : TaskRun between t x y) (hbefore : Turn.lastAccepted? x.turns ≠ none) :
    Turn.lastAccepted? y.turns ≠ none := by
  induction hrun with
  | start => exact hbefore
  | step _ hstep ih => exact hstep.lastAccepted? ih
  | meanwhile _ _ ih => exact ih

namespace Deployment

/-! ## Tokens -/

/-- **Master and slaves accept what any of them has minted.** A task, from its beginning on, looks
after a master that was reached by whatever run, and delivers straight to its targets. The cap of
the master is above the number of intervals in a lifetime, those of the slaves are above that by
one, and the slaves share the clock of the master. All goes well in every turn, and between the
steps of the task, also in the middle of a tick, the loop is not disturbed. Some time after the
first tick, at `x₁`, the master or a slave mints a token. Later, at `x₂`, the master and every slave
accept the token, if it has not run out, no more than a lifetime after the last turn that has come
to them. For what was minted by a slave that was not in step with the master, this is said of no more
than a lifetime from the turn that had not come to it. -/
theorem accepts_in_closed_loop {t : TaskRef} {targets : List Target} {s : Settings}
    {clock : Instant → Instant → Prop} {t₀ : Instant} {task : RotationTask} {d₀ : Deployment}
    {x₁ x₂ : Course} {issuer : ManagerRef} {block : Block} {modes : AccessModes}
    {owner? : Option String} {token : Token}
    (htask : d₀.tasks[t.index]? = some task) (hstart : task.progress = .start)
    (hchannel : task.channel = .direct targets)
    (hreached : ReachedMaster clock s t₀ (d₀.manager task.manager))
    (hroom : 1 + s.lifetime.toNat / s.interval.toNat ≤ s.maxRetained.toNat)
    (hslaves : ∀ q, d₀.Serves targets q →
      2 + s.lifetime.toNat / s.interval.toNat ≤ (d₀.manager q).maxRetained ∧
        (d₀.member q).time = (d₀.member task.manager).time)
    (hbefore : TaskRun (Undisturbed t task.manager targets) t (.start d₀) x₁)
    (hfirst : Turn.lastAccepted? x₁.turns ≠ none)
    (hissuer : issuer = task.manager ∨ x₁.deployment.Serves targets issuer)
    (hmint : (x₁.deployment.manager issuer).mint (x₁.deployment.now issuer) block modes owner?
      = .ok token)
    (hafter : TaskRun (Undisturbed t task.manager targets) t x₁ x₂)
    (hwell : ∀ turn ∈ x₂.turns, turn.WentWell) :
    ∃ k x, (x₁.deployment.manager issuer).window.current? = some k ∧
      x = (x₁.deployment.manager issuer).identifierFor (x₁.deployment.now issuer) k block modes
        owner? ∧
      x.expiry = (x₁.deployment.now task.manager).after s.lifetime ∧
      ∀ q, q = task.manager ∨ x₂.deployment.Serves targets q →
        (∀ last, (x₂.seenBy task.manager q).head? = some last →
          x₂.deployment.now q ≤ last.time.after s.lifetime) →
        (¬ x₁.deployment.InStep task.manager issuer → ∀ last, x₁.turns.head? = some last →
          x₂.deployment.now q ≤ last.time.after s.lifetime) →
        x₂.deployment.now q ≤ x.expiry →
        (x₂.deployment.manager q).Accepts (x₂.deployment.now q) token x := by
  obtain ⟨current₀, next₀, hmaster₀⟩ := hreached.masterWindow
  have hloop₀ := Loop.start htask hstart hchannel hmaster₀ hslaves
  obtain ⟨-, polls, hloop₁, -⟩ := hloop₀.run hbefore (hafter.wentWell hwell)
  rw [List.append_nil] at hloop₁
  obtain ⟨hclock, later, hloop₂, hlater⟩ := hloop₁.run hafter hwell
  have hissued := hloop₁.now_eq hissuer
  -- What was minted is signed with the key that some poll has left to the master.
  obtain ⟨since, newer, signed, earlier, rfl, hkeyed, hsince, hnewer, hlife⟩ :=
    hloop₁.signing hfirst hissuer
  obtain ⟨⟨current, next, hsigned⟩, -⟩ :=
    hloop₁.history.settled signed (List.mem_append_right _ List.mem_cons_self)
  obtain ⟨k, hsigner, hcarries⟩ := Manager.carries_of_mint hmint
  obtain ⟨hsame, hlifetime⟩ := hkeyed.signs hsigned
  obtain rfl : current = k := Option.some.inj (hsame.symm.trans hsigner)
  have hexpiry : ((x₁.deployment.manager issuer).identifierFor (x₁.deployment.now issuer) current
      block modes owner?).expiry = (x₁.deployment.now task.manager).after s.lifetime := by
    rw [Manager.identifierFor, hlifetime, hissued]
  refine ⟨current, _, hsigner, rfl, hexpiry, fun q hq hseen hbehind htime => ?_⟩
  -- The polls that were made on these keys were made after `since`, and so the key is still there.
  rw [← List.append_assoc] at hloop₂
  have hpolls : ∀ poll ∈ later ++ newer, since ≤ poll.time := by
    intro poll hmem
    rcases List.mem_append.1 hmem with hnew | hold
    · exact Instant.le_trans hsince (hlater poll hnew)
    · exact hnewer poll hold
  have hnow : since ≤ x₂.deployment.now q := by
    rw [hloop₂.now_eq hq]
    exact Instant.le_trans hsince hclock
  obtain ⟨k', hmem, hsecret⟩ := hloop₂.candidate hroom (hafter.lastAccepted? hfirst) hsigned hpolls
    hq hnow (hlife _ (hexpiry ▸ htime) hbehind) hseen
  exact hcarries.accepts hmem hsecret htime

end Deployment

/-! ## A slave that is behind -/

/-- Settings under which a token outlives two intervals. -/
def Settings.lasting : Settings :=
  { standard with interval := 120000, lifetime := 300000, maxRetained := 4 }

/-- A master with these settings. The secret of its first key is all zeros, and that of the next one
all ones. -/
def Manager.lasting : Manager :=
  .firstMaster .lasting ⟨0⟩ 1 (List.replicate 64 0) (List.replicate 64 1)

set_option maxRecDepth 4000 in
theorem reachedMaster_lasting : ReachedMaster (· ≤ ·) .lasting ⟨0⟩ .lasting :=
  ⟨⟨0⟩, .bytes (List.replicate 68 0 ++ List.replicate 64 1), _, 0, rfl, .start⟩

namespace Deployment

/-- The deployment when its first clock shows `now`. -/
def atTime (d : Deployment) (now : Instant) : Deployment := ((setClock ⟨0⟩ now).run d).2

/-- The targets of the task. -/
def pairedTargets : List Target := [.pool ⟨0⟩ "pool"]

/-- The master, a slave without keys in a pool, and a task that delivers to the pool. All further
secrets are all ones. -/
def paired : Deployment :=
  { empty ⟨0⟩ with
    clocks := #[⟨0⟩]
    members := #[⟨.lasting, .clock ⟨0⟩⟩,
      ⟨.ofSettings .slave .lasting (.empty ⟨0⟩ 1 1) 0, .clock ⟨0⟩⟩]
    registries := #[⟨[("pool", ⟨1⟩)]⟩]
    tasks := #[⟨⟨0⟩, .direct pairedTargets, 0, 1000, .start, []⟩]
    entropy := .bytes (List.replicate 128 1) }

end Deployment

namespace Course

open Deployment

/-- The course when the first clock shows `now`. -/
def atTime (x : Course) (now : Instant) : Course :=
  { x with deployment := x.deployment.atTime now }

theorem atTime_atTime (x : Course) (now now' : Instant) :
    (x.atTime now).atTime now' = x.atTime now' := by
  have hclocks : (x.atTime now).deployment.clocks.setIfInBounds 0 now'
      = x.deployment.clocks.setIfInBounds 0 now' := Array.setIfInBounds_setIfInBounds ..
  exact congrArg (fun clocks => { x with deployment := { x.deployment with clocks } }) hclocks

theorem inStep_atTime {x : Course} {now : Instant} {r q : ManagerRef} :
    (x.atTime now).deployment.InStep r q ↔ x.deployment.InStep r q := Iff.rfl

/-- The keys that the first tick hands over. -/
def firstKeys : KeyExport :=
  ⟨120000, 300000, ⟨1, ⟨420000⟩, List.replicate 64 0⟩, [⟨2, ⟨540000⟩, List.replicate 64 1⟩]⟩

/-- After the first tick. -/
def begun : Course :=
  ⟨[⟨⟨0⟩, .ok false, some ⟨firstKeys, .accepted⟩⟩], .resting, ((tick ⟨0⟩).run paired).2⟩

/-- The keys that the second tick hands over. -/
def secondKeys : KeyExport :=
  ⟨120000, 300000, ⟨2, ⟨660000⟩, List.replicate 64 1⟩,
    [⟨3, ⟨780000⟩, List.replicate 64 1⟩, ⟨1, ⟨540000⟩, List.replicate 64 0⟩]⟩

/-- What the task goes by in its second tick. -/
def secondTask : RotationTask := ⟨⟨0⟩, .direct pairedTargets, 0, 1000, ⟨true, none⟩, []⟩

/-- The second tick, at the end of the second interval, has rotated the keys, which have not yet
come to the slave. -/
def behind : Course :=
  ⟨⟨⟨240000⟩, .ok true, none⟩ :: begun.turns, .delivering secondTask secondKeys pairedTargets,
    ((rotateIfDue ⟨0⟩).run (begun.deployment.atTime ⟨240000⟩)).2⟩

/-- The second tick is over. The keys have come to the slave at `now`. -/
def updated (now : Instant) : Course :=
  .cameBack ⟨0⟩ ⟨240000⟩ (.ok true) begun.turns secondTask secondKeys .accepted
    ((importAt secondKeys (.pool ⟨0⟩ "pool")).run (behind.deployment.atTime now)).2

set_option maxRecDepth 4000 in
theorem steps_begun : Relation.ReflTransGen (TaskStep ⟨0⟩) (.start paired) begun := by
  have htask : paired.tasks[(⟨0⟩ : TaskRef).index]?
      = some ⟨⟨0⟩, .direct pairedTargets, 0, 1000, .start, []⟩ := rfl
  have hrotation : ((rotateIfDue ⟨0⟩).run paired).1 = .ok false := rfl
  have hkeys : (((rotateIfDue ⟨0⟩).run paired).2.manager ⟨0⟩).exportKeys = .ok firstKeys := rfl
  exact steps_tick_of_deliver htask rfl hrotation rfl hkeys rfl []

set_option maxRecDepth 4000 in
theorem steps_behind :
    Relation.ReflTransGen (TaskStep ⟨0⟩) (begun.atTime ⟨240000⟩) behind := by
  have hrotation : (rotateIfDue ⟨0⟩).run (begun.deployment.atTime ⟨240000⟩)
      = (.ok true, behind.deployment) := Prod.ext rfl rfl
  have hkeys : (behind.deployment.manager ⟨0⟩).exportKeys = .ok secondKeys := rfl
  exact .head (.answered rfl rfl hrotation rfl) (.single (.exported hkeys rfl))

set_option maxRecDepth 4000 in
/-- The master signs with its second key, and the slave with its first one. -/
theorem not_inStep_behind : ¬ behind.deployment.InStep ⟨0⟩ ⟨1⟩ := by
  have hmaster : (behind.deployment.manager ⟨0⟩).window.current? = some secondKeys.current := rfl
  have hslave : (behind.deployment.manager ⟨1⟩).window.current? = some firstKeys.current := rfl
  intro hstep
  rw [InStep, hmaster, hslave] at hstep
  exact absurd (congrArg BlockKey.id (Option.some.inj hstep)) (by decide)

theorem steps_updated (now : Instant) :
    Relation.ReflTransGen (TaskStep ⟨0⟩) (behind.atTime now) (updated now) := by
  have himport : (importAt secondKeys (.pool ⟨0⟩ "pool")).run (behind.deployment.atTime now)
      = (.ok (), _) := Prod.ext rfl rfl
  exact .head (.imported himport) (.single .accepted)

/-- The keys that the third tick hands over. -/
def thirdKeys : KeyExport :=
  ⟨120000, 300000, ⟨3, ⟨960000⟩, List.replicate 64 1⟩,
    [⟨4, ⟨1080000⟩, List.replicate 64 1⟩, ⟨2, ⟨840000⟩, List.replicate 64 1⟩,
      ⟨1, ⟨540000⟩, List.replicate 64 0⟩]⟩

/-- After a third tick, a lifetime after the second one. -/
def ended : Course :=
  ⟨⟨⟨540000⟩, .ok true, some ⟨thirdKeys, .accepted⟩⟩ :: (updated ⟨420001⟩).turns, .resting,
    ((tick ⟨0⟩).run ((updated ⟨420001⟩).deployment.atTime ⟨540000⟩)).2⟩

set_option maxRecDepth 4000 in
theorem steps_ended :
    Relation.ReflTransGen (TaskStep ⟨0⟩) ((updated ⟨420001⟩).atTime ⟨540000⟩) ended := by
  have htask : ((updated ⟨420001⟩).deployment.atTime ⟨540000⟩).tasks[(⟨0⟩ : TaskRef).index]?
      = some ⟨⟨0⟩, .direct pairedTargets, 0, 1000, ⟨false, none⟩, []⟩ := rfl
  have hrotation : ((rotateIfDue ⟨0⟩).run ((updated ⟨420001⟩).deployment.atTime ⟨540000⟩)).1
      = .ok true := rfl
  have hkeys : (((rotateIfDue ⟨0⟩).run
      ((updated ⟨420001⟩).deployment.atTime ⟨540000⟩)).2.manager ⟨0⟩).exportKeys
      = .ok thirdKeys := rfl
  exact steps_tick_of_deliver htask rfl hrotation rfl hkeys rfl _

set_option maxRecDepth 4000 in
theorem inStep_updated (now : Instant) : (updated now).deployment.InStep ⟨0⟩ ⟨1⟩ := by
  have hslave : ((updated now).deployment.manager ⟨1⟩).window.current?
      = some secondKeys.current := rfl
  have hmaster : ((updated now).deployment.manager ⟨0⟩).window.current?
      = some secondKeys.current := rfl
  rw [InStep, hmaster, hslave]

end Course

namespace Deployment

/-- Between the steps of a pair nothing is done but what leaves the loop undisturbed. -/
def PairedRun : Course → Course → Prop := TaskRun (Undisturbed ⟨0⟩ ⟨0⟩ pairedTargets) ⟨0⟩

namespace PairedRun

variable {x y z : Course}

theorem steps (hrun : PairedRun x y) (hsteps : Relation.ReflTransGen (TaskStep ⟨0⟩) y z) :
    PairedRun x z := TaskRun.steps hrun hsteps

theorem atTime (hrun : PairedRun x y) (now : Instant)
    (hclock : y.deployment.now ⟨0⟩ ≤ (y.atTime now).deployment.now ⟨0⟩) :
    PairedRun x (y.atTime now) :=
  hrun.meanwhile (undisturbed_of_eq rfl rfl rfl hclock)

theorem refl (x : Course) : PairedRun x x := .start

theorem begun : PairedRun (.start paired) .begun := (refl _).steps Course.steps_begun

theorem behind (hrun : PairedRun x .begun) : PairedRun x .behind :=
  (hrun.atTime ⟨240000⟩ (by decide)).steps Course.steps_behind

end PairedRun

/-- What a slave or the master mints with the first key. -/
def mintedByFirst (x : Identifier) : Token :=
  .ofSigned x.wireBytes (BlockKey.sign ⟨1, ⟨420000⟩, List.replicate 64 0⟩ x.wireBytes)

theorem serves_paired {q : ManagerRef} : paired.Serves pairedTargets q ↔ q = ⟨1⟩ := by
  constructor
  · rintro ⟨target, hmem, hresolve⟩
    obtain rfl := List.mem_singleton.1 hmem
    cases hresolve
    rfl
  · rintro rfl
    exact ⟨_, List.mem_cons_self, rfl⟩

/-- Whether all went well can be read off a turn. -/
theorem wentWell_of_accepted {time : Instant} {rotated : Bool} {keys : KeyExport}
    (hlast : time.toInt < Instant.lastMillis) :
    (⟨time, .ok rotated, some ⟨keys, .accepted⟩⟩ : Turn).WentWell := by
  refine ⟨⟨rotated, rfl⟩, ?_, hlast⟩
  rintro handover ⟨⟩
  rfl

/-- The slave mints a token after the master has rotated, before it has heard of it. A lifetime
after the rotation, both still accept it. -/
theorem accepts_in_closed_loop_from_slave :
    ∃ x₂ token x, PairedRun (.start paired) (Course.behind.atTime ⟨300000⟩) ∧
      ¬ (Course.behind.atTime ⟨300000⟩).deployment.InStep ⟨0⟩ ⟨1⟩ ∧
      ((Course.behind.atTime ⟨300000⟩).deployment.manager ⟨1⟩).mint ⟨300000⟩ ⟨"", 7⟩ .all none
        = .ok token ∧
      PairedRun (Course.behind.atTime ⟨300000⟩) x₂ ∧ x.expiry = ⟨600000⟩ ∧
      (x₂.deployment.manager ⟨0⟩).Accepts ⟨540000⟩ token x ∧
      (x₂.deployment.manager ⟨1⟩).Accepts ⟨540000⟩ token x := by
  have hbefore : PairedRun (.start paired) (Course.behind.atTime ⟨300000⟩) :=
    PairedRun.begun.behind.atTime _ (by decide)
  have hafter : PairedRun (Course.behind.atTime ⟨300000⟩)
      ((Course.updated ⟨300000⟩).atTime ⟨540000⟩) := by
    have hupdated := (PairedRun.refl _).steps (Course.steps_updated ⟨300000⟩)
    exact hupdated.atTime ⟨540000⟩ (by decide)
  obtain ⟨token, hmint⟩ : ∃ token, ((Course.behind.atTime ⟨300000⟩).deployment.manager ⟨1⟩).mint
      ((Course.behind.atTime ⟨300000⟩).deployment.now ⟨1⟩) ⟨"", 7⟩ .all none = .ok token :=
    ⟨_, Manager.mint_eq_ok_iff.2
      ⟨rfl, _, _, rfl, Identifier.encode_eq_ok_iff.2 ⟨by decide, rfl⟩, rfl⟩⟩
  have hslaves (q : ManagerRef) (hq : paired.Serves pairedTargets q) :
      2 + Settings.lasting.lifetime.toNat / Settings.lasting.interval.toNat
        ≤ (paired.manager q).maxRetained ∧
        (paired.member q).time = (paired.member ⟨0⟩).time := by
    obtain rfl := serves_paired.1 hq
    exact ⟨by decide, rfl⟩
  have hroom : 1 + Settings.lasting.lifetime.toNat / Settings.lasting.interval.toNat
      ≤ Settings.lasting.maxRetained.toNat := by decide
  have htask : paired.tasks[(⟨0⟩ : TaskRef).index]?
      = some ⟨⟨0⟩, .direct pairedTargets, 0, 1000, .start, []⟩ := rfl
  have hserved : (Course.behind.atTime ⟨300000⟩).deployment.Serves pairedTargets ⟨1⟩ :=
    ⟨_, List.mem_cons_self, rfl⟩
  obtain ⟨k, x, -, -, hexpiry, haccepts⟩ := accepts_in_closed_loop htask rfl rfl
    reachedMaster_lasting hroom hslaves hbefore (by decide) (.inr hserved) hmint hafter
    (List.forall_mem_cons.2 ⟨wentWell_of_accepted (by decide), List.forall_mem_singleton.2
      (wentWell_of_accepted (by decide))⟩)
  have htime : x.expiry = ⟨600000⟩ := hexpiry
  have hlasts : (⟨540000⟩ : Instant) ≤ (⟨240000⟩ : Instant).after Settings.lasting.lifetime := by
    decide
  -- The second turn has come to both.
  have hrecent (q : ManagerRef) (last : Turn)
      (hstep : ((Course.updated ⟨300000⟩).atTime ⟨540000⟩).deployment.InStep ⟨0⟩ q)
      (hlast : (((Course.updated ⟨300000⟩).atTime ⟨540000⟩).seenBy ⟨0⟩ q).head? = some last) :
      (⟨540000⟩ : Instant) ≤ last.time.after Settings.lasting.lifetime := by
    rw [Course.seenBy, if_pos hstep] at hlast
    cases hlast
    exact hlasts
  have hbehind (last : Turn)
      (hlast : (Course.behind.atTime ⟨300000⟩).turns.head? = some last) :
      (⟨540000⟩ : Instant) ≤ last.time.after Settings.lasting.lifetime := by
    cases hlast
    exact hlasts
  have hapart : ¬ (Course.behind.atTime ⟨300000⟩).deployment.InStep ⟨0⟩ ⟨1⟩ :=
    mt Course.inStep_atTime.1 Course.not_inStep_behind
  refine ⟨_, token, x, hbefore, hapart, hmint, hafter, htime, ?_, ?_⟩
  · exact haccepts ⟨0⟩ (.inl rfl) (fun last => hrecent _ last rfl) (fun _ => hbehind)
      (by rw [htime]; decide)
  · exact haccepts ⟨1⟩ (.inr ⟨_, List.mem_cons_self, rfl⟩)
      (fun last => hrecent _ last (Course.inStep_atTime.2 (Course.inStep_updated ⟨300000⟩)))
      (fun _ => hbehind) (by rw [htime]; decide)

/-- What the master signs between the first two ticks. -/
def signedBetween : Identifier := ⟨⟨500000⟩, 1, "", ⟨"", 7⟩, .all⟩

/-- The two secrets give different passwords. -/
theorem hmac_signedBetween_ne :
    Digest.hmacSha256 (List.replicate 64 1) signedBetween.wireBytes
      ≠ Digest.hmacSha256 (List.replicate 64 0) signedBetween.wireBytes := by
  decide +kernel

/-- A manager all of whose candidates have the other secret refuses what the first key has signed.
-/
theorem refused_mintedByFirst {m : Manager} {now : Instant} {x : Identifier}
    (hform : x.encode = .ok x.wireBytes)
    (hne : Digest.hmacSha256 (List.replicate 64 1) x.wireBytes
      ≠ Digest.hmacSha256 (List.replicate 64 0) x.wireBytes)
    (hothers : ∀ k ∈ m.window.candidates now, k.secret = List.replicate 64 1)
    (htime : now ≤ x.expiry) (hmode : x.modes.contains .read = true) :
    m.checkAccess now (mintedByFirst x) none x.block .read = .error .invalidSignature := by
  have hcarries := Token.carries_ofSigned hform ⟨1, ⟨420000⟩, List.replicate 64 0⟩
  refine hcarries.refused (fun k hk hsigned => ?_) htime (.inl rfl) hmode
  simp only [hothers k hk, Token.ofSigned, BlockKey.sign] at hsigned
  exact hne hsigned

set_option maxRecDepth 4000 in
/-- **What the closed loop refuses.** The caps of the master and of its slave are as large as the
loop needs them, all goes well in every turn, and no two turns are more than a lifetime apart. The
slave refuses what the master has minted before the second turn, as the keys of this turn are still
on their way, and its copy of the first key has run out. After the third turn the master refuses
what the slave has minted while they were on their way, as it has kept the first key for no more
than a lifetime from the second turn on. Neither of the tokens has run out, and the last turn is
less than a lifetime ago. -/
theorem closed_loop_refuses :
    ∃ a b, ReachedMaster (· ≤ ·) .lasting ⟨0⟩ (paired.manager ⟨0⟩) ∧
      1 + Settings.lasting.lifetime.toNat / Settings.lasting.interval.toNat
        ≤ (paired.manager ⟨0⟩).maxRetained ∧
      2 + Settings.lasting.lifetime.toNat / Settings.lasting.interval.toNat
        ≤ (paired.manager ⟨1⟩).maxRetained ∧
      (∀ turn ∈ Course.ended.turns, turn.WentWell) ∧
      Course.ended.turns.map Turn.time = [⟨540000⟩, ⟨240000⟩, ⟨0⟩] ∧
      PairedRun (.start paired) (Course.begun.atTime ⟨200000⟩) ∧
      ((Course.begun.atTime ⟨200000⟩).deployment.manager ⟨0⟩).mint ⟨200000⟩ ⟨"", 7⟩ .all none
        = .ok a ∧ a.decodeIdentifier = .ok ⟨⟨500000⟩, 1, "", ⟨"", 7⟩, .all⟩ ∧
      PairedRun (Course.begun.atTime ⟨200000⟩) (Course.behind.atTime ⟨300000⟩) ∧
      ((Course.behind.atTime ⟨300000⟩).deployment.manager ⟨1⟩).mint ⟨300000⟩ ⟨"", 7⟩ .all none
        = .ok b ∧ b.decodeIdentifier = .ok ⟨⟨600000⟩, 1, "", ⟨"", 7⟩, .all⟩ ∧
      PairedRun (Course.behind.atTime ⟨300000⟩) (Course.behind.atTime ⟨420001⟩) ∧
      ((Course.behind.atTime ⟨420001⟩).deployment.manager ⟨1⟩).checkAccess ⟨420001⟩ a none
        ⟨"", 7⟩ .read = .error .invalidSignature ∧
      PairedRun (Course.behind.atTime ⟨420001⟩) (Course.ended.atTime ⟨540001⟩) ∧
      ((Course.ended.atTime ⟨540001⟩).deployment.manager ⟨0⟩).checkAccess ⟨540001⟩ b none
        ⟨"", 7⟩ .read = .error .invalidSignature := by
  have hbetween : signedBetween.encode = .ok signedBetween.wireBytes :=
    Identifier.encode_eq_ok_iff.2 ⟨by decide, rfl⟩
  have hearly : Identifier.earlySigned.encode = .ok Identifier.earlySigned.wireBytes :=
    Identifier.encode_eq_ok_iff.2 ⟨by decide, rfl⟩
  have hbegun : PairedRun (.start paired) (Course.begun.atTime ⟨200000⟩) :=
    PairedRun.begun.atTime _ (by decide)
  have hbehind : PairedRun (Course.begun.atTime ⟨200000⟩) (Course.behind.atTime ⟨300000⟩) := by
    have hasked := (PairedRun.refl (Course.begun.atTime ⟨200000⟩)).atTime ⟨240000⟩ (by decide)
    rw [Course.atTime_atTime] at hasked
    exact (hasked.steps Course.steps_behind).atTime _ (by decide)
  have hwaiting : PairedRun (Course.behind.atTime ⟨300000⟩) (Course.behind.atTime ⟨420001⟩) := by
    have hlater := (PairedRun.refl (Course.behind.atTime ⟨300000⟩)).atTime ⟨420001⟩ (by decide)
    rw [Course.atTime_atTime] at hlater
    exact hlater
  have hended : PairedRun (Course.behind.atTime ⟨420001⟩) (Course.ended.atTime ⟨540001⟩) := by
    have hupdated := (PairedRun.refl _).steps (Course.steps_updated ⟨420001⟩)
    exact ((hupdated.atTime ⟨540000⟩ (by decide)).steps Course.steps_ended).atTime _ (by decide)
  have hminted : ((Course.begun.atTime ⟨200000⟩).deployment.manager ⟨0⟩).mint ⟨200000⟩
      ⟨"", 7⟩ .all none = .ok (mintedByFirst signedBetween) :=
    Manager.mint_eq_ok_iff.2 ⟨rfl, _, _, rfl, hbetween, rfl⟩
  have hsigned : ((Course.behind.atTime ⟨300000⟩).deployment.manager ⟨1⟩).mint ⟨300000⟩
      ⟨"", 7⟩ .all none = .ok (mintedByFirst .earlySigned) :=
    Manager.mint_eq_ok_iff.2 ⟨rfl, _, _, rfl, hearly, rfl⟩
  -- All keys that have not run out have the other secret.
  have hslave : ∀ k ∈ ((Course.behind.atTime ⟨420001⟩).deployment.manager ⟨1⟩).window.candidates
      ⟨420001⟩, k.secret = List.replicate 64 1 := by decide +kernel
  have hmaster : ∀ k ∈ ((Course.ended.atTime ⟨540001⟩).deployment.manager ⟨0⟩).window.candidates
      ⟨540001⟩, k.secret = List.replicate 64 1 := by decide +kernel
  have hwell : ∀ turn ∈ Course.ended.turns, turn.WentWell :=
    List.forall_mem_cons.2 ⟨wentWell_of_accepted (by decide), List.forall_mem_cons.2
      ⟨wentWell_of_accepted (by decide), List.forall_mem_singleton.2
        (wentWell_of_accepted (by decide))⟩⟩
  refine ⟨_, _, reachedMaster_lasting, by decide, by decide, hwell, rfl, hbegun, hminted, ?_,
    hbehind, hsigned, ?_, hwaiting, ?_, hended, ?_⟩
  · exact (Token.carries_ofSigned hbetween ⟨1, ⟨420000⟩, List.replicate 64 0⟩).decode
  · exact (Token.carries_ofSigned hearly ⟨1, ⟨420000⟩, List.replicate 64 0⟩).decode
  · exact refused_mintedByFirst hbetween hmac_signedBetween_ne hslave (by decide) rfl
  · exact refused_mintedByFirst hearly hmac_earlySigned_ne hmaster (by decide) rfl

end Deployment

end BlockAccess
