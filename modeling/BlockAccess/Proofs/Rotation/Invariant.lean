import BlockAccess.Proofs.Rotation.Effect

/-!
# The window of a master

A master is made with two keys and is then called, any number of times and at whatever its clock
shows. `RotationRun` is such a sequence of calls; it counts the calls that rotated. Which readings
of the clock may follow one another is left to a relation, so that the same runs serve for a clock
that never goes back (`≤`) and for one that does as it likes (`anyClock`).

`MasterWindow` is what every master keeps through every run. The counter is ahead of the next key,
the next key of the current one, and so on down the retained keys: ids are given out once, in
ascending order, and keys are retired in the order in which they were made. The expiries of the two
newest keys are tied to the moment at which the current key became current.

## Main results

* `MasterWindow.call` — a call keeps the invariant, whatever it does.
* `RotationRun.masterWindow` — so does a run.
* `master_window_invariant` — the invariant in full for every run, with its consequences for what
  can go wrong in a rotation.
-/

namespace BlockAccess

/-! ## Runs -/

/-- The clock that may show anything after anything. -/
def anyClock : Instant → Instant → Prop := fun _ _ => True

/-- **A run of calls on a manager** `m` from the time `t` on: the number of the calls that rotated,
the time of the last call, and the manager after it. -/
inductive RotationRun (clock : Instant → Instant → Prop) (t : Instant) (m : Manager) :
    Nat → Instant → Manager → Prop
  | start : RotationRun clock t m 0 t m
  | rotated {n : Nat} {t₁ now : Instant} {m₁ : Manager} (c : RotationCall) (entropy : Entropy)
      (hrun : RotationRun clock t m n t₁ m₁) (hclock : clock t₁ now)
      (hresult : (c.run m₁ now entropy).result = .ok true) :
      RotationRun clock t m (n + 1) now (c.run m₁ now entropy).manager
  | kept {n : Nat} {t₁ now : Instant} {m₁ : Manager} (c : RotationCall) (entropy : Entropy)
      (hrun : RotationRun clock t m n t₁ m₁) (hclock : clock t₁ now)
      (hresult : (c.run m₁ now entropy).result ≠ .ok true) :
      RotationRun clock t m n now (c.run m₁ now entropy).manager

/-- A master that was made from the settings `s` and has gone through a run that ended at `t`. -/
def ReachedMaster (clock : Instant → Instant → Prop) (s : Settings) (t : Instant) (m : Manager) :
    Prop :=
  ∃ (start : Instant) (entropy : Entropy) (m₀ : Manager) (n : Nat),
    (Manager.newMaster s start entropy).result = .ok m₀ ∧ RotationRun clock start m₀ n t m

/-! ## The invariant -/

/-- **What is true of a master** `m` made from the settings `s`, whose current and next key are
`current` and `next`. -/
structure MasterWindow (s : Settings) (m : Manager) (current next : BlockKey) : Prop where
  settings : s.fault? = none
  role : m.role = .master
  maxRetained : m.maxRetained = s.maxRetained.toNat
  interval : m.window.interval = s.interval
  lifetime : m.window.lifetime = s.lifetime
  current? : m.window.current? = some current
  next? : m.window.next? = some next
  /-- The ids descend from the counter to the oldest retained key. -/
  descending :
    (m.nextKeyId :: next.id :: current.id :: m.window.retained.map (·.id)).Pairwise (· > ·)
  length_retained : m.window.retained.length ≤ m.maxRetained
  /-- The current key is good for what it signs within its interval. -/
  current_expiry : m.window.currentExpiry m.window.currentSince ≤ current.expiry
  next_expiry :
    next.expiry = (m.window.currentExpiry m.window.currentSince).after m.window.interval

namespace MasterWindow

variable {s : Settings} {m : Manager} {current next : BlockKey}

theorem next_lt (h : MasterWindow s m current next) : next.id < m.nextKeyId :=
  (List.pairwise_cons.1 h.descending).1 next.id (by simp)

theorem current_lt_next (h : MasterWindow s m current next) : current.id < next.id :=
  (List.pairwise_cons.1 (List.pairwise_cons.1 h.descending).2).1 current.id (List.mem_cons_self ..)

/-- A retained key is older than the current one. -/
theorem retained_lt_current (h : MasterWindow s m current next) {k : BlockKey}
    (hk : k ∈ m.window.retained) : k.id < current.id :=
  (List.pairwise_cons.1 (List.pairwise_cons.1 (List.pairwise_cons.1 h.descending).2).2).1 k.id
    (List.mem_map_of_mem hk)

theorem keys (h : MasterWindow s m current next) :
    m.window.keys = current :: next :: m.window.retained := by
  simp [KeyWindow.keys, h.current?, h.next?]

/-- A master that satisfies the invariant can do what is listed, and nothing else. -/
theorem effect (h : MasterWindow s m current next) (c : RotationCall) (now : Instant)
    (entropy : Entropy) :
    RotationCall.Effect m next now entropy c (c.run m now entropy).result
      (c.run m now entropy).manager :=
  c.effect_run h.role h.next? h.next_lt now entropy

end MasterWindow

/-! ## One call -/

/-- The id after one that is not the greatest. -/
theorem toNat_succ_of_room {id : KeyId} (h : id.toNat + 1 < UInt32.size) :
    (id + 1).toNat = id.toNat + 1 := by
  rw [UInt32.toNat_add]
  exact Nat.mod_eq_of_lt h

theorem lt_succ_of_room {id : KeyId} (h : id.toNat + 1 < UInt32.size) : id < id + 1 := by
  rw [UInt32.lt_iff_toNat_lt, toNat_succ_of_room h]
  omega

/-- The counter moved on by one is ahead of all that it was ahead of, and of itself. -/
private theorem descending_succ {counter : KeyId} {ids : List KeyId}
    (hcounter : counter.toNat + 1 < UInt32.size) (h : (counter :: ids).Pairwise (· > ·)) :
    ((counter + 1) :: counter :: ids).Pairwise (· > ·) := by
  refine List.pairwise_cons.2 ⟨fun id hid => ?_, h⟩
  rcases List.mem_cons.1 hid with rfl | hold
  · exact lt_succ_of_room hcounter
  · exact UInt32.lt_trans ((List.pairwise_cons.1 h).1 id hold) (lt_succ_of_room hcounter)

/-- A rotation retires the current key and keeps the order of those retired before. -/
theorem KeyWindow.ids_retiring_sublist {w : KeyWindow} {current : BlockKey}
    (hcurrent : w.current? = some current) (now : Instant) (limit : Nat) :
    (((w.retiring now).take limit).map (·.id)).Sublist (current.id :: w.retained.map (·.id)) := by
  have htake := (List.take_sublist limit (w.retiring now)).map (·.id)
  refine htake.trans ?_
  simp only [retiring, hcurrent, Option.map_some, Option.toList_some, List.singleton_append,
    List.map_cons, BlockKey.extendedTo, BlockKey.withExpiry]
  exact (List.filter_sublist.map _).cons_cons current.id

theorem KeyWindow.length_retiring_le (w : KeyWindow) (now : Instant) :
    (w.retiring now).length ≤ w.retained.length + w.current?.toList.length := by
  have hfilter := List.length_filter_le (fun k : BlockKey => !k.isExpired now) w.retained
  simp only [retiring, List.length_append, Option.length_toList, Option.isSome_map]
  omega

namespace MasterWindow

variable {s : Settings} {m : Manager} {current next : BlockKey}

/-- A rotation that succeeds keeps the invariant. -/
theorem renewed (h : MasterWindow s m current next)
    (hcounter : m.nextKeyId.toNat + 1 < UInt32.size) (now : Instant) (secret : List UInt8) :
    MasterWindow s (m.renewed now next secret)
      (next.extendedTo (m.window.currentExpiry now)) (m.freshNext now secret) where
  settings := h.settings
  role := h.role
  maxRetained := h.maxRetained
  interval := h.interval
  lifetime := h.lifetime
  current? := rfl
  next? := rfl
  descending := by
    have hsub := KeyWindow.ids_retiring_sublist h.current? now m.maxRetained
    exact (descending_succ hcounter h.descending).sublist
      (((hsub.cons_cons next.id).cons_cons m.nextKeyId).cons_cons (m.nextKeyId + 1))
  length_retained := List.length_take_le _ _
  current_expiry := Instant.le_max_right next.expiry _
  next_expiry := rfl

/-- A rotation for which the entropy failed keeps the invariant, although it used up an id. -/
theorem idTaken (h : MasterWindow s m current next)
    (hcounter : m.nextKeyId.toNat + 1 < UInt32.size) : MasterWindow s m.idTaken current next :=
  { h with
    descending := (descending_succ hcounter h.descending).sublist
      ((List.sublist_cons_self m.nextKeyId _).cons_cons (m.nextKeyId + 1)) }

/-- **Whatever a call does, it keeps the invariant.** -/
theorem call (h : MasterWindow s m current next) (c : RotationCall) (now : Instant)
    (entropy : Entropy) :
    ∃ current' next', MasterWindow s (c.run m now entropy).manager current' next' := by
  have heffect := h.effect c now entropy
  generalize (c.run m now entropy).manager = m' at heffect ⊢
  generalize (c.run m now entropy).result = result at heffect
  cases heffect with
  | rotated hdue hcounter hdraw => exact ⟨_, _, h.renewed hcounter now _⟩
  | notDue hdue => exact ⟨current, next, h⟩
  | exhausted hcounter => exact ⟨current, next, h⟩
  | dry hcounter hdraw => exact ⟨current, next, h.idTaken hcounter⟩

/-- A call that answers that it rotated has renewed the master. -/
theorem eq_renewed (h : MasterWindow s m current next) {c : RotationCall} {now : Instant}
    {entropy : Entropy} (hresult : (c.run m now entropy).result = .ok true) :
    ∃ secret, (c.run m now entropy).manager = m.renewed now next secret := by
  have heffect := h.effect c now entropy
  rw [hresult] at heffect
  generalize (c.run m now entropy).manager = m' at heffect ⊢
  cases heffect with
  | rotated hdue hcounter hdraw => exact ⟨_, rfl⟩

/-- Any other call leaves the window alone. -/
theorem window_eq (h : MasterWindow s m current next) {c : RotationCall} {now : Instant}
    {entropy : Entropy} (hresult : (c.run m now entropy).result ≠ .ok true) :
    (c.run m now entropy).manager.window = m.window := by
  have heffect := h.effect c now entropy
  generalize (c.run m now entropy).manager = m' at heffect ⊢
  generalize (c.run m now entropy).result = result at heffect hresult
  cases heffect with
  | rotated hdue hcounter hdraw => exact absurd rfl hresult
  | notDue hdue => rfl
  | exhausted hcounter => rfl
  | dry hcounter hdraw => rfl

/-- A master that has just been made satisfies the invariant. -/
theorem of_newMaster {now : Instant} {entropy : Entropy}
    (h : (Manager.newMaster s now entropy).result = .ok m) :
    ∃ current next, MasterWindow s m current next := by
  obtain ⟨hsettings, first, secret₁, secret₂, hle, -, -, rfl⟩ := Manager.newMaster_eq_ok h
  simp only [KeySource.maxFirstId] at hle
  have hfirst : first.toNat + 1 < UInt32.size := by
    simp only [UInt32.size]
    omega
  have hsecond : (first + 1).toNat + 1 < UInt32.size := by
    rw [toNat_succ_of_room hfirst]
    simp only [UInt32.size]
    omega
  have hdescending := descending_succ hsecond
    (descending_succ hfirst (List.pairwise_singleton (· > ·) first))
  rw [UInt32.add_assoc] at hdescending
  exact ⟨_, _,
    { settings := hsettings
      role := rfl
      maxRetained := rfl
      interval := rfl
      lifetime := rfl
      current? := rfl
      next? := rfl
      descending := hdescending
      length_retained := Nat.zero_le _
      current_expiry := Instant.le_refl _
      next_expiry := rfl }⟩

end MasterWindow

/-! ## Runs keep the invariant -/

theorem RotationRun.masterWindow {clock : Instant → Instant → Prop} {s : Settings}
    {t t' : Instant} {m m' : Manager} {n : Nat} {current next : BlockKey}
    (hrun : RotationRun clock t m n t' m') (h : MasterWindow s m current next) :
    ∃ current' next', MasterWindow s m' current' next' := by
  induction hrun with
  | start => exact ⟨current, next, h⟩
  | rotated c entropy _ _ _ ih =>
    obtain ⟨_, _, hwindow⟩ := ih
    exact hwindow.call c _ entropy
  | kept c entropy _ _ _ ih =>
    obtain ⟨_, _, hwindow⟩ := ih
    exact hwindow.call c _ entropy

theorem ReachedMaster.masterWindow {clock : Instant → Instant → Prop} {s : Settings}
    {t : Instant} {m : Manager} (h : ReachedMaster clock s t m) :
    ∃ current next, MasterWindow s m current next := by
  obtain ⟨start, entropy, m₀, n, hmade, hrun⟩ := h
  obtain ⟨current, next, hwindow⟩ := MasterWindow.of_newMaster hmade
  exact hrun.masterWindow hwindow

/-- The reason why a call fails is the counter or the entropy. -/
theorem MasterWindow.error_cases {s : Settings} {m : Manager} {current next : BlockKey}
    (h : MasterWindow s m current next) {c : RotationCall} {now : Instant} {entropy : Entropy}
    {e : AccessError} (hresult : (c.run m now entropy).result = .error e) :
    (e = .rotation .idsExhausted ∧ m.nextKeyId.toNat = UInt32.size - 1) ∨
      (e = .rotation .entropy ∧ entropy.draw? BlockKey.secretLength = none) := by
  have heffect := h.effect c now entropy
  rw [hresult] at heffect
  generalize (c.run m now entropy).manager = m' at heffect
  cases heffect with
  | exhausted hcounter => exact .inl ⟨rfl, by omega⟩
  | dry hcounter hdraw => exact .inr ⟨rfl, hdraw⟩

/-- Where neither is the case, a master rotates when it is asked to. -/
theorem MasterWindow.rotates {s : Settings} {m : Manager} {current next : BlockKey}
    (h : MasterWindow s m current next) (hcounter : m.nextKeyId.toNat + 1 < UInt32.size)
    (now : Instant) (entropy : Entropy)
    (hdraw : (entropy.draw? BlockKey.secretLength).isSome) :
    (RotationCall.rotate.run m now entropy).result = .ok true := by
  have heffect := h.effect .rotate now entropy
  generalize (RotationCall.rotate.run m now entropy).manager = m' at heffect
  generalize (RotationCall.rotate.run m now entropy).result = result at heffect ⊢
  cases heffect with
  | rotated => rfl
  | exhausted hid => omega
  | dry _ hnone => simp [hnone] at hdraw

/-- The expiry of the next key on the scale of the integers: the four spans add up, and the sum is
cut off once. -/
theorem MasterWindow.toInt_next_expiry {s : Settings} {m : Manager} {current next : BlockKey}
    (h : MasterWindow s m current next) :
    next.expiry.toInt = min (m.window.currentSince.toInt + s.interval.toNat + s.lifetime.toNat
      + s.interval.toNat) Instant.lastMillis := by
  obtain ⟨-, -, -, hinterval, hlifetime⟩ := Settings.fault?_eq_none_iff.1 h.settings
  rw [h.next_expiry, KeyWindow.currentExpiry, h.interval, h.lifetime, Instant.toInt_after,
    Instant.toInt_after, Instant.toInt_after]
  omega

/-- The two ids after the first one exist, and the counter of a new master stands after both
keys. -/
theorem newMaster_counter {s : Settings} {now : Instant} {entropy : Entropy} {m : Manager}
    (h : (Manager.newMaster s now entropy).result = .ok m) :
    ∃ first, m.currentKeyId? = some first ∧ first.toNat + 2 < UInt32.size ∧
      m.nextKeyId.toNat = first.toNat + 2 := by
  obtain ⟨-, first, secret₁, secret₂, hle, -, -, rfl⟩ := Manager.newMaster_eq_ok h
  have hroom : first.toNat + 2 < UInt32.size := by
    simp only [KeySource.maxFirstId, UInt32.size] at hle ⊢
    omega
  refine ⟨first, rfl, hroom, ?_⟩
  show (first + 2).toNat = first.toNat + 2
  rw [UInt32.toNat_add]
  exact Nat.mod_eq_of_lt hroom

/-! ## The invariant in full -/

/-- Entropy that gives `n` zeros and then fails. -/
def Entropy.zeros (n : Nat) : Entropy := .bytes (List.replicate n 0)

/-- The master that the standard settings give at `now` if the entropy is zero. -/
def Manager.zeroKeyed (now : Instant) : Manager :=
  .firstMaster .standard now 1 (List.replicate 64 0) (List.replicate 64 0)

/-- A slave without keys that keeps up to `limit` retired ones. -/
def Manager.emptySlave (limit : Nat) : Manager := ⟨.slave, true, limit, .empty ⟨0⟩ 1 1, 0⟩

set_option maxRecDepth 4000 in
theorem newMaster_zeros (now : Instant) :
    (Manager.newMaster .standard now (.zeros 132)).result = .ok (.zeroKeyed now) := rfl

theorem reachedMaster_zeroKeyed (clock : Instant → Instant → Prop) (now : Instant) :
    ReachedMaster clock .standard now (.zeroKeyed now) :=
  ⟨now, .zeros 132, .zeroKeyed now, 0, newMaster_zeros now, .start⟩

/-- **The master window invariant.** Of every master that was made, whatever settings it was made
from, and that has gone through whatever calls under whatever clock: its first two ids exist; it
holds a current and a next key, the ids descend, and the next key is good for the two intervals and
the lifetime from when the current key became current; the cap holds; the counter is ahead of the
keys; a call fails for want of ids or of entropy only; and no more keys are left by a rotation than
there were. -/
theorem master_window_invariant {s : Settings} {start t : Instant} {entropy : Entropy}
    {m₀ m : Manager} {n : Nat} (hmade : (Manager.newMaster s start entropy).result = .ok m₀)
    (hrun : RotationRun anyClock start m₀ n t m) :
    (∃ first, m₀.currentKeyId? = some first ∧ first.toNat + 2 < UInt32.size ∧
      m₀.nextKeyId.toNat = first.toNat + 2) ∧
    (∃ current next, m.window.current? = some current ∧ m.window.next? = some next ∧
      (m.nextKeyId :: next.id :: current.id :: m.window.retained.map (·.id)).Pairwise (· > ·) ∧
      next.expiry.toInt = min (m.window.currentSince.toInt + s.interval.toNat
        + s.lifetime.toNat + s.interval.toNat) Instant.lastMillis) ∧
    m.window.retained.length ≤ s.maxRetained.toNat ∧
    (Manager.newestId? m.window).filter (m.nextKeyId ≤ ·) = none ∧
    (∀ (c : RotationCall) (now : Instant) (entropy : Entropy) (e : AccessError),
      (c.run m now entropy).result = .error e →
        (e = .rotation .idsExhausted ∧ m.nextKeyId.toNat = UInt32.size - 1) ∨
          (e = .rotation .entropy ∧ entropy.draw? BlockKey.secretLength = none)) ∧
    ∀ now : Instant, (m.window.retiring now).length
      ≤ m.window.retained.length + m.window.current?.toList.length := by
  obtain ⟨current, next, h⟩ := ReachedMaster.masterWindow ⟨start, entropy, m₀, n, hmade, hrun⟩
  refine ⟨newMaster_counter hmade,
    ⟨current, next, h.current?, h.next?, h.descending, h.toInt_next_expiry⟩, ?_,
    Manager.newestId?_filter h.next? h.next_lt, ?_, m.window.length_retiring_le⟩
  · rw [← h.maxRetained]
    exact h.length_retained
  · intro c now entropy e hresult
    exact h.error_cases hresult

set_option maxRecDepth 4000 in
/-- The clock goes back to before 1970, and the entropy fails there. -/
theorem master_window_invariant_clock_back :
    ∃ m₀ m, (Manager.newMaster .standard ⟨1000⟩ (.zeros 132)).result = .ok m₀ ∧
      RotationRun anyClock ⟨1000⟩ m₀ 1 ⟨-9⟩ m ∧ m.window.retained.length ≤ 16 ∧
      (Manager.newestId? m.window).filter (m.nextKeyId ≤ ·) = none := by
  have hrotated : RotationRun anyClock ⟨1000⟩ (.zeroKeyed ⟨1000⟩) 1 ⟨5⟩ _ :=
    .rotated .rotate (.zeros 64) .start trivial rfl
  have hrun : RotationRun anyClock ⟨1000⟩ (.zeroKeyed ⟨1000⟩) 1 ⟨-9⟩ _ :=
    .kept .rotate (.zeros 0) hrotated trivial nofun
  have h := master_window_invariant (newMaster_zeros ⟨1000⟩) hrun
  exact ⟨_, _, newMaster_zeros ⟨1000⟩, hrun, h.2.2.1, h.2.2.2.1⟩

end BlockAccess
