import BlockAccess.Proofs.Rotation.Invariant

/-!
# The numbers of successive keys

The first two keys of a master have successive ids, and as long as every rotation succeeds, so have
its current and its next key ever after. But a rotation takes an id from the counter before it draws
the secret for it. If the entropy fails in between, the window stays as it was and the counter does
not: the id is lost, and the key that the next rotation makes has the id after it.

So a failed rotation shows two rotations later. When it happens nothing can be seen of it; after the
next rotation there is a gap between the next and the current key, which then moves on between the
current and the retained keys. How wide the gap is can be told from what the calls have answered:
`lostSince` counts the ids that were lost since the latest rotation, and `lostBefore` those that
were lost between the latest rotation and the one before.

## Main results

* `Numbered.call` — a call keeps the numbers of keys and counter in step with what is counted.
* `next_id_counts_failures` — the numbers of every window, and what a failed rotation changes.
* `failed_rotation_leaves_gap` — a window whose two newest keys are not successive.
-/

namespace BlockAccess

/-! ## What is lost -/

/-- What calls for a rotation have answered, the latest first. -/
abbrev RotationAnswers := List (Except AccessError Bool)

namespace RotationAnswers

/-- The number of the ids lost since the latest rotation. -/
def lostSince : RotationAnswers → Nat
  | [] => 0
  | .ok true :: _ => 0
  | .ok false :: earlier => lostSince earlier
  | .error e :: earlier => lostSince earlier + if e = .rotation .entropy then 1 else 0

/-- The number of the ids lost between the latest rotation and the one before. -/
def lostBefore : RotationAnswers → Nat
  | [] => 0
  | .ok true :: earlier => lostSince earlier
  | .ok false :: earlier | .error _ :: earlier => lostBefore earlier

end RotationAnswers

/-- **A run of calls on a master,** with all that they have answered. -/
inductive AnsweredRun (m : Manager) : RotationAnswers → Manager → Prop
  | start : AnsweredRun m [] m
  | call {answers : RotationAnswers} {m₁ : Manager} (c : RotationCall) (now : Instant)
      (entropy : Entropy) (hrun : AnsweredRun m answers m₁) :
      AnsweredRun m ((c.run m₁ now entropy).result :: answers) (c.run m₁ now entropy).manager

/-! ## The numbers of a window -/

/-- **The ids of the two newest keys and the counter** are as far apart as what was lost. -/
structure Numbered (answers : RotationAnswers) (m : Manager) (current next : BlockKey) : Prop where
  newest : next.id.toNat = current.id.toNat + 1 + answers.lostBefore
  counter : m.nextKeyId.toNat = next.id.toNat + 1 + answers.lostSince

namespace Numbered

variable {s : Settings} {m : Manager} {current next : BlockKey} {answers : RotationAnswers}

/-- Where all ids are in step, the two newest keys are successive if and only if nothing was lost
between them. -/
theorem successive_iff (h : Numbered answers m current next) :
    next.id = current.id + 1 ↔ answers.lostBefore = 0 := by
  have hnext := h.newest
  have hbound := next.id.toNat_lt
  have hroom : current.id.toNat + 1 < UInt32.size := by
    simp only [UInt32.size]
    omega
  rw [← UInt32.toNat_inj, toNat_succ_of_room hroom]
  omega

/-- **A call keeps the numbers in step,** whatever it does. -/
theorem call (h : Numbered answers m current next) (hwindow : MasterWindow s m current next)
    (c : RotationCall) (now : Instant) (entropy : Entropy) :
    ∃ current' next', MasterWindow s (c.run m now entropy).manager current' next' ∧
      Numbered ((c.run m now entropy).result :: answers) (c.run m now entropy).manager
        current' next' := by
  have heffect := hwindow.effect c now entropy
  generalize (c.run m now entropy).manager = m' at heffect ⊢
  generalize (c.run m now entropy).result = result at heffect ⊢
  cases heffect with
  | rotated hdue hcounter hdraw =>
    refine ⟨_, _, hwindow.renewed hcounter now _, ?_⟩
    constructor
    case newest => exact h.counter
    case counter => exact toNat_succ_of_room hcounter
  | notDue hdue => exact ⟨current, next, hwindow, h.newest, h.counter⟩
  | exhausted hcounter => exact ⟨current, next, hwindow, h.newest, h.counter⟩
  | dry hcounter hdraw =>
    refine ⟨current, next, hwindow.idTaken hcounter, h.newest, ?_⟩
    show (m.nextKeyId + 1).toNat = next.id.toNat + 1 + (answers.lostSince + 1)
    rw [toNat_succ_of_room hcounter, h.counter]
    omega

/-- A master that has just been made has given out two ids and lost none. -/
theorem of_newMaster {now : Instant} {entropy : Entropy}
    (h : (Manager.newMaster s now entropy).result = .ok m) :
    ∃ current next, MasterWindow s m current next ∧ Numbered [] m current next := by
  obtain ⟨current, next, hwindow⟩ := MasterWindow.of_newMaster h
  refine ⟨current, next, hwindow, ?_⟩
  obtain ⟨first, hfirst, hroom, hcounter⟩ := newMaster_counter h
  have hcurrent : current.id = first := by
    rw [Manager.currentKeyId?, hwindow.current?] at hfirst
    exact Option.some.inj hfirst
  -- Only one id lies between the first one and the counter.
  have hafter := UInt32.lt_iff_toNat_lt.1 hwindow.current_lt_next
  have hbefore := UInt32.lt_iff_toNat_lt.1 hwindow.next_lt
  rw [hcurrent] at hafter
  constructor
  case newest =>
    show next.id.toNat = current.id.toNat + 1
    rw [hcurrent]
    omega
  case counter =>
    show m.nextKeyId.toNat = next.id.toNat + 1
    omega

end Numbered

/-- Throughout a run keys and counter are in step with what was lost. -/
theorem AnsweredRun.numbered {s : Settings} {m₀ m : Manager} {answers : RotationAnswers}
    {current next : BlockKey} (hrun : AnsweredRun m₀ answers m)
    (hwindow : MasterWindow s m₀ current next) (hnumbered : Numbered [] m₀ current next) :
    ∃ current' next', MasterWindow s m current' next' ∧ Numbered answers m current' next' := by
  induction hrun with
  | start => exact ⟨current, next, hwindow, hnumbered⟩
  | call c now entropy _ ih =>
    obtain ⟨_, _, hwindow', hnumbered'⟩ := ih
    exact hnumbered'.call hwindow' c now entropy

/-! ## What a failure changes -/

namespace MasterWindow

variable {s : Settings} {m : Manager} {current next : BlockKey} {c : RotationCall} {now : Instant}
  {entropy : Entropy}

/-- A call that fails leaves everything as it was, but for an id if the entropy failed. -/
theorem manager_of_error (h : MasterWindow s m current next) {e : AccessError}
    (hresult : (c.run m now entropy).result = .error e) :
    (e = .rotation .idsExhausted ∧ (c.run m now entropy).manager = m) ∨
      (e = .rotation .entropy ∧ m.nextKeyId.toNat + 1 < UInt32.size ∧
        (c.run m now entropy).manager = m.idTaken) := by
  have heffect := h.effect c now entropy
  rw [hresult] at heffect
  generalize (c.run m now entropy).manager = m' at heffect ⊢
  cases heffect with
  | exhausted hcounter => exact .inl ⟨rfl, rfl⟩
  | dry hcounter hdraw => exact .inr ⟨rfl, hcounter, rfl⟩

/-- **A lost id shows in the next rotation:** the current key is the same as without the loss, and
the next key has the id after the one it would have had. -/
theorem shifted_of_idTaken (h : MasterWindow s m current next)
    (hcounter : m.nextKeyId.toNat + 1 < UInt32.size) {entropy' : Entropy} {c' : RotationCall}
    (hkept : (c.run m now entropy).result = .ok true)
    (hlost : (c'.run m.idTaken now entropy').result = .ok true) :
    (c'.run m.idTaken now entropy').manager.window.current?
        = (c.run m now entropy).manager.window.current? ∧
      ∃ k k', (c.run m now entropy).manager.window.next? = some k ∧
        (c'.run m.idTaken now entropy').manager.window.next? = some k' ∧
        k'.id.toNat = k.id.toNat + 1 := by
  obtain ⟨secret, hrenewed⟩ := h.eq_renewed hkept
  obtain ⟨secret', hrenewed'⟩ := (h.idTaken hcounter).eq_renewed hlost
  rw [hrenewed, hrenewed']
  exact ⟨rfl, _, _, rfl, rfl, toNat_succ_of_room hcounter⟩

end MasterWindow

/-- **The next id counts the failures.** At any point of any run of calls on a master that was made,
under any clock and with any entropy, the id of its next key is that of its current key plus one
plus the number of rotations for which the entropy failed between the two latest rotations, and the
counter is ahead of it by one plus what failed since. So the two newest ids are successive exactly
if nothing failed between these rotations. A call that fails leaves the window as it was. If all ids
are used up it changes nothing at all; if it was the entropy that failed, an id is lost, and the
next rotation turns out otherwise than without the failed one: the same key becomes current, but the
new key has the id after the one that it would have had. -/
theorem next_id_counts_failures {s : Settings} {start : Instant} {entropy : Entropy}
    {m₀ m : Manager} {answers : RotationAnswers}
    (hmade : (Manager.newMaster s start entropy).result = .ok m₀)
    (hrun : AnsweredRun m₀ answers m) :
    (∃ current next, m.window.current? = some current ∧ m.window.next? = some next ∧
      next.id.toNat = current.id.toNat + 1 + answers.lostBefore ∧
      m.nextKeyId.toNat = next.id.toNat + 1 + answers.lostSince ∧
      (next.id = current.id + 1 ↔ answers.lostBefore = 0)) ∧
    ∀ (c : RotationCall) now entropy e failed, (c.run m now entropy).result = .error e →
      (c.run m now entropy).manager = failed →
      failed.window = m.window ∧
      ((e = .rotation .idsExhausted ∧ failed = m) ∨
        (e = .rotation .entropy ∧ failed.nextKeyId.toNat = m.nextKeyId.toNat + 1)) ∧
      (e = .rotation .entropy → ∀ (c₁ c₂ : RotationCall) later entropy₁ entropy₂,
        (c₁.run m later entropy₁).result = .ok true →
        (c₂.run failed later entropy₂).result = .ok true →
        (c₂.run failed later entropy₂).manager.window.current?
            = (c₁.run m later entropy₁).manager.window.current? ∧
          ∃ k₁ k₂, (c₁.run m later entropy₁).manager.window.next? = some k₁ ∧
            (c₂.run failed later entropy₂).manager.window.next? = some k₂ ∧
            k₂.id.toNat = k₁.id.toNat + 1) := by
  obtain ⟨first, second, hfirst, hnone⟩ := Numbered.of_newMaster hmade
  obtain ⟨current, next, hwindow, hnumbered⟩ := hrun.numbered hfirst hnone
  constructor
  · exact ⟨current, next, hwindow.current?, hwindow.next?, hnumbered.newest, hnumbered.counter,
      hnumbered.successive_iff⟩
  · intro c now entropy e failed hfailed hleft
    rcases hwindow.manager_of_error hfailed with ⟨rfl, hmanager⟩ | ⟨rfl, hcounter, hmanager⟩
    · obtain rfl := hleft.symm.trans hmanager
      exact ⟨rfl, .inl ⟨rfl, rfl⟩, nofun⟩
    · obtain rfl := hleft.symm.trans hmanager
      refine ⟨rfl, .inr ⟨rfl, toNat_succ_of_room hcounter⟩, fun _ => ?_⟩
      intro c₁ c₂ later entropy₁ entropy₂ hkept hlost
      exact hwindow.shifted_of_idTaken hcounter hkept hlost

/-- A master for which the entropy failed once before its first rotation and once after it; and what
the first of these failures has changed in the rotation. -/
theorem next_id_counts_failures_around_rotation :
    (∃ m current next, AnsweredRun (.zeroKeyed ⟨0⟩)
        [.error (.rotation .entropy), .ok true, .error (.rotation .entropy)] m ∧
      m.window.current? = some current ∧ m.window.next? = some next ∧
      next.id.toNat = current.id.toNat + 2 ∧ m.nextKeyId.toNat = next.id.toNat + 2) ∧
    ∃ failed k₁ k₂, (RotationCall.rotate.run (.zeroKeyed ⟨0⟩) ⟨1⟩ (.zeros 0)).manager = failed ∧
      failed.window = (Manager.zeroKeyed ⟨0⟩).window ∧
      (RotationCall.rotate.run (.zeroKeyed ⟨0⟩) ⟨2⟩ (.zeros 64)).manager.window.next? = some k₁ ∧
      (RotationCall.rotate.run failed ⟨2⟩ (.zeros 64)).manager.window.next? = some k₂ ∧
      k₂.id.toNat = k₁.id.toNat + 1 := by
  constructor
  · have hfailed : AnsweredRun (.zeroKeyed ⟨0⟩) [.error (.rotation .entropy)] _ :=
      .call .rotate ⟨1⟩ (.zeros 0) .start
    have hrotated : AnsweredRun (.zeroKeyed ⟨0⟩) [.ok true, .error (.rotation .entropy)] _ :=
      hfailed.call .rotate ⟨2⟩ (.zeros 64)
    have hrun : AnsweredRun (.zeroKeyed ⟨0⟩)
        [.error (.rotation .entropy), .ok true, .error (.rotation .entropy)] _ :=
      hrotated.call .rotate ⟨3⟩ (.zeros 0)
    obtain ⟨⟨current, next, hcurrent, hnext, hnewest, hcounter, -⟩, -⟩ :=
      next_id_counts_failures (newMaster_zeros ⟨0⟩) hrun
    exact ⟨_, current, next, hrun, hcurrent, hnext, hnewest, hcounter⟩
  · obtain ⟨hwindow, -, hshifted⟩ := (next_id_counts_failures (newMaster_zeros ⟨0⟩) .start).2
      .rotate ⟨1⟩ (.zeros 0) _ _ rfl rfl
    obtain ⟨-, k₁, k₂, hkept, hlost, hid⟩ :=
      hshifted rfl .rotate .rotate ⟨2⟩ (.zeros 64) (.zeros 64) rfl rfl
    exact ⟨_, k₁, k₂, rfl, hwindow, hkept, hlost, hid⟩

/-- A rotation that failed is followed by one that succeeds. The ids of the two newest keys are 2
and 4; without the failed one they would be 2 and 3. -/
theorem failed_rotation_leaves_gap :
    ∃ m kept, (Manager.newMaster .standard ⟨0⟩ (.zeros 132)).result = .ok (.zeroKeyed ⟨0⟩) ∧
      AnsweredRun (.zeroKeyed ⟨0⟩) [.ok true, .error (.rotation .entropy)] m ∧
      m.currentKeyId? = some 2 ∧ m.window.next?.map (·.id) = some 4 ∧
      AnsweredRun (.zeroKeyed ⟨0⟩) [.ok true] kept ∧
      kept.currentKeyId? = some 2 ∧ kept.window.next?.map (·.id) = some 3 := by
  have hfailed : AnsweredRun (.zeroKeyed ⟨0⟩) [.error (.rotation .entropy)] _ :=
    .call .rotate ⟨1⟩ (.zeros 0) .start
  have hgap : AnsweredRun (.zeroKeyed ⟨0⟩) [.ok true, .error (.rotation .entropy)] _ :=
    hfailed.call .rotate ⟨2⟩ (.zeros 64)
  have hkept : AnsweredRun (.zeroKeyed ⟨0⟩) [.ok true] _ := .call .rotate ⟨2⟩ (.zeros 64) .start
  exact ⟨_, _, newMaster_zeros ⟨0⟩, hgap, rfl, rfl, hkept, rfl, rfl⟩

end BlockAccess
