import BlockAccess.Manager.Keys

/-!
# What a call for a rotation does

A master is asked for a rotation in two ways: at once, or if one is due. `RotationCall.run` makes
either call and tells by its result whether the keys were rotated. `RotationCall.Effect` lists
everything that such a call can do, together with the conditions under which it does it: it rotates,
it finds that nothing is due, the ids are exhausted, or the entropy has run dry after an id was
taken. All that is proved of rotations is proved by going through this list; the definitions behind
it are opened here and nowhere else.

## Main results

* `RotationCall.effect_run` — a call has one of the listed effects, provided the master holds a next
  key and its counter is ahead of that key.
* `Manager.run_firstKeys` — what a master begins with, draw by draw.
* `Manager.newMaster_eq_ok` — the shape of a master that was made.
-/

namespace BlockAccess

/-- The two calls that may rotate the keys of a master. -/
inductive RotationCall
  | rotate
  | rotateIfDue
  deriving DecidableEq, Repr

namespace Manager

/-- The key that a rotation at `now` makes from `secret`, to be current after the next one. -/
def freshNext (m : Manager) (now : Instant) (secret : List UInt8) : BlockKey :=
  ⟨m.nextKeyId, (m.window.currentExpiry now).after m.window.interval, secret⟩

/-- A master after a rotation at `now` that promoted `next` and drew `secret`. -/
def renewed (m : Manager) (now : Instant) (next : BlockKey) (secret : List UInt8) : Manager :=
  { m with
    window := m.window.rotated now (next.extendedTo (m.window.currentExpiry now))
      (m.freshNext now secret) m.maxRetained
    nextKeyId := m.nextKeyId + 1 }

/-- A master that has taken an id for a key which then could not be made. -/
def idTaken (m : Manager) : Manager := { m with nextKeyId := m.nextKeyId + 1 }

end Manager

namespace RotationCall

/-- **Makes the call.** The result tells whether the keys were rotated. -/
def run (c : RotationCall) (m : Manager) (now : Instant) (entropy : Entropy) :
    Manager.Rotation Bool :=
  match c with
  | rotate =>
    let r := m.rotate now entropy
    ⟨r.result.map fun _ => true, r.manager, r.entropy, r.events⟩
  | rotateIfDue => m.rotateIfDue now entropy

/-- **Everything that a call can do** to a master `m` whose next key is `next`: what it answers,
and the master that it leaves. -/
inductive Effect (m : Manager) (next : BlockKey) (now : Instant) (entropy : Entropy) :
    RotationCall → Except AccessError Bool → Manager → Prop
  | rotated {c : RotationCall} {secret : List UInt8} {rest : Entropy}
      (hdue : c = rotateIfDue → m.window.isDue now = true)
      (hid : m.nextKeyId.toNat + 1 < UInt32.size)
      (hdraw : entropy.draw? BlockKey.secretLength = some (secret, rest)) :
      Effect m next now entropy c (.ok true) (m.renewed now next secret)
  | notDue (hdue : m.window.isDue now = false) :
      Effect m next now entropy rotateIfDue (.ok false) m
  | exhausted {c : RotationCall} (hid : m.nextKeyId.toNat + 1 = UInt32.size) :
      Effect m next now entropy c (.error (.rotation .idsExhausted)) m
  | dry {c : RotationCall} (hid : m.nextKeyId.toNat + 1 < UInt32.size)
      (hdraw : entropy.draw? BlockKey.secretLength = none) :
      Effect m next now entropy c (.error (.rotation .entropy)) m.idTaken

end RotationCall

/-! ## The calls -/

namespace Manager

variable {m : Manager} {next : BlockKey}

/-- The successors of a window that holds a next key: only the key after it has to be made. -/
theorem run_successors (hnext : m.window.next? = some next) (now : Instant) (source : KeySource) :
    (successors m.window now).run.run source =
      if source.nextId.toNat + 1 < UInt32.size then
        match source.entropy.draw? BlockKey.secretLength with
        | some (secret, entropy) =>
          (.ok (next.extendedTo (m.window.currentExpiry now),
            ⟨source.nextId, (m.window.currentExpiry now).after m.window.interval, secret⟩),
            ⟨source.nextId + 1, entropy⟩)
        | none => (.error (.rotation .entropy), { source with nextId := source.nextId + 1 })
      else (.error (.rotation .idsExhausted), source) := by
  simp only [successors, hnext, pure_bind]
  rw [KeySource.run_bind, KeySource.run_freshKey]
  by_cases hid : source.nextId.toNat + 1 < UInt32.size
  · rw [if_pos hid, if_pos hid]
    cases source.entropy.draw? BlockKey.secretLength <;> rfl
  · rw [if_neg hid, if_neg hid]

/-- The check of the counter lets a rotation pass if the counter is ahead of the next key. -/
theorem newestId?_filter (hnext : m.window.next? = some next) (hfollow : next.id < m.nextKeyId) :
    (newestId? m.window).filter (m.nextKeyId ≤ ·) = none := by
  simp [newestId?, hnext, hfollow]

theorem effect_rotateWindow (hnext : m.window.next? = some next)
    (hfollow : next.id < m.nextKeyId) (c : RotationCall) (now : Instant) (entropy : Entropy)
    (hdue : c = .rotateIfDue → m.window.isDue now = true) :
    RotationCall.Effect m next now entropy c
      ((m.rotateWindow now entropy).result.map fun _ => true)
      (m.rotateWindow now entropy).manager := by
  have hsize := m.nextKeyId.toNat_lt
  rw [rotateWindow, newestId?_filter hnext hfollow, run_successors hnext]
  by_cases hid : m.nextKeyId.toNat + 1 < UInt32.size
  · cases hdraw : entropy.draw? BlockKey.secretLength with
    | none =>
      simp only [if_pos hid]
      exact .dry hid hdraw
    | some drawn =>
      simp only [if_pos hid]
      exact .rotated hdue hid hdraw
  · simp only [if_neg hid]
    exact .exhausted (by simp only [UInt32.size] at hid ⊢; omega)

end Manager

/-- **A call has one of the listed effects.** The two hypotheses on the window hold of every master
that was made by `Manager.newMaster` and changed by such calls only. -/
theorem RotationCall.effect_run {m : Manager} {next : BlockKey} (hrole : m.role = .master)
    (hnext : m.window.next? = some next) (hfollow : next.id < m.nextKeyId) (c : RotationCall)
    (now : Instant) (entropy : Entropy) :
    Effect m next now entropy c (c.run m now entropy).result (c.run m now entropy).manager := by
  cases c with
  | rotate =>
    simp only [run, Manager.rotate, hrole]
    exact Manager.effect_rotateWindow hnext hfollow .rotate now entropy nofun
  | rotateIfDue =>
    simp only [run, Manager.rotateIfDue, hrole]
    cases hdue : m.window.isDue now with
    | true =>
      exact Manager.effect_rotateWindow hnext hfollow .rotateIfDue now entropy (fun _ => hdue)
    | false => exact .notDue hdue

/-! ## The making of a master -/

namespace Manager

/-- The first id that four bytes give. -/
def firstId (drawn : List UInt8) : KeyId :=
  UInt32.ofNat (KeySource.ofLittleEndian drawn % KeySource.maxFirstId + 1)

theorem firstId_le (drawn : List UInt8) : (firstId drawn).toNat ≤ KeySource.maxFirstId := by
  have hlt := Nat.mod_lt (KeySource.ofLittleEndian drawn) (show 0 < KeySource.maxFirstId by decide)
  rw [firstId, UInt32.toNat_ofNat']
  simp only [KeySource.maxFirstId] at hlt ⊢
  omega

/-- The drawing of the first keys, draw by draw. The first ids are far from the greatest one, so
that only a draw can fail. -/
theorem run_firstKeys (s : Settings) (now : Instant) (e : Entropy) :
    (firstKeys s now).run.run ⟨0, e⟩ =
      match e.draw? 4 with
      | none => (.error (.rotation .entropy), ⟨0, e⟩)
      | some (drawn, e₁) =>
        match e₁.draw? BlockKey.secretLength with
        | none => (.error (.rotation .entropy), ⟨firstId drawn + 1, e₁⟩)
        | some (secret₁, e₂) =>
          match e₂.draw? BlockKey.secretLength with
          | none => (.error (.rotation .entropy), ⟨firstId drawn + 1 + 1, e₂⟩)
          | some (secret₂, e₃) =>
            let expiry := (now.after s.interval).after s.lifetime
            (.ok (⟨firstId drawn, expiry, secret₁⟩,
              ⟨firstId drawn + 1, expiry.after s.interval, secret₂⟩),
              ⟨firstId drawn + 2, e₃⟩) := by
  have hchoose : KeySource.chooseFirstId.run.run ⟨0, e⟩ =
      match e.draw? 4 with
      | none => (.error (.rotation .entropy), ⟨0, e⟩)
      | some (drawn, rest) => (.ok (), ⟨firstId drawn, rest⟩) := by
    rw [KeySource.chooseFirstId, KeySource.run_bind, KeySource.run_takeBytes]
    cases e.draw? 4 <;> rfl
  rw [firstKeys, KeySource.run_bind, hchoose]
  rcases e.draw? 4 with _ | ⟨drawn, e₁⟩
  · rfl
  have hfirst : (firstId drawn).toNat ≤ 0x7FFFFFFF := firstId_le drawn
  have hroom : (firstId drawn).toNat + 2 < UInt32.size := by
    simp only [UInt32.size]
    omega
  have hnext : (firstId drawn + 1).toNat = (firstId drawn).toNat + 1 := by
    rw [UInt32.toNat_add]
    exact Nat.mod_eq_of_lt (show (firstId drawn).toNat + 1 < UInt32.size by omega)
  dsimp only
  rw [KeySource.run_bind, KeySource.run_freshKey, if_pos (by dsimp only; omega)]
  dsimp only
  rcases e₁.draw? BlockKey.secretLength with _ | ⟨secret₁, e₂⟩
  · rfl
  dsimp only
  rw [KeySource.run_bind, KeySource.run_freshKey, if_pos (by dsimp only; omega)]
  dsimp only
  rcases e₂.draw? BlockKey.secretLength with _ | ⟨secret₂, e₃⟩
  · rfl
  dsimp only
  rw [UInt32.add_assoc]
  rfl

/-- The master made at `now` whose first key has the id `first`. -/
def firstMaster (s : Settings) (now : Instant) (first : KeyId) (secret₁ secret₂ : List UInt8) :
    Manager :=
  let expiry := (now.after s.interval).after s.lifetime
  .ofSettings .master s
    ⟨some ⟨first, expiry, secret₁⟩, some ⟨first + 1, expiry.after s.interval, secret₂⟩, [], now,
      s.interval, s.lifetime⟩
    (first + 2)

/-- **The shape of a master that was made.** Its first id leaves half of all ids for those that
follow, and its secrets have the usual length. -/
theorem newMaster_eq_ok {s : Settings} {now : Instant} {entropy : Entropy} {m : Manager}
    (h : (newMaster s now entropy).result = .ok m) :
    s.fault? = none ∧ ∃ (first : KeyId) (secret₁ secret₂ : List UInt8),
      first.toNat ≤ KeySource.maxFirstId ∧ secret₁.length = BlockKey.secretLength ∧
        secret₂.length = BlockKey.secretLength ∧ m = firstMaster s now first secret₁ secret₂ := by
  cases hfault : s.fault? with
  | some fault => simp [newMaster, Settings.validate, hfault] at h
  | none =>
    refine ⟨rfl, ?_⟩
    simp only [newMaster, Settings.validate, hfault, run_firstKeys] at h
    rcases hfirst : entropy.draw? 4 with _ | ⟨drawn, e₁⟩
    · simp [hfirst] at h
    rcases hsecret₁ : e₁.draw? BlockKey.secretLength with _ | ⟨secret₁, e₂⟩
    · simp [hfirst, hsecret₁] at h
    rcases hsecret₂ : e₂.draw? BlockKey.secretLength with _ | ⟨secret₂, e₃⟩
    · simp [hfirst, hsecret₁, hsecret₂] at h
    simp only [hfirst, hsecret₁, hsecret₂, Except.ok.injEq] at h
    exact ⟨firstId drawn, secret₁, secret₂, firstId_le drawn, Entropy.length_of_draw? hsecret₁,
      Entropy.length_of_draw? hsecret₂, h.symm⟩

end Manager

end BlockAccess
