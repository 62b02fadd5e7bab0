import BlockAccess.Manager

/-!
# Renewing and sharing keys

A master *rotates*: the next key becomes the current one, a fresh next key is made, and the old
current key is retired. It *exports* its window, and slaves *import* it. The next key is part of an
export, so that slaves know the key that the master will sign with before it does.

A rotation that fails leaves the window as it was; the id and the entropy that it took are gone.
-/

namespace BlockAccess.Manager

/-- What an attempt to rotate leaves behind. -/
structure Rotation (α : Type) where
  result : Except AccessError α
  manager : Manager
  entropy : Entropy
  events : List Event

/-- Draws the key to be current and the key to be next. -/
def successors (w : KeyWindow) (now : Instant) : Drawing (BlockKey × BlockKey) := do
  let expiry := w.currentExpiry now
  let promoted ← match w.next? with
    | some next => pure (next.extendedTo expiry)
    | none => KeySource.freshKey expiry
  let next ← KeySource.freshKey (expiry.after w.interval)
  return (promoted, next)

/-- What is reported when `count` retired keys have to fit into a limit. -/
def dropNotice (count limit : Nat) : List Event :=
  if limit < count then [.retainedDropped count limit] else []

/-- The newest id in use: that of the next key, or else of the current key. -/
def newestId? (w : KeyWindow) : Option KeyId := (w.next?.or w.current?).map (·.id)

/-- Rotates a window, whatever the role. -/
def rotateWindow (m : Manager) (now : Instant) (entropy : Entropy) : Rotation Unit :=
  match (newestId? m.window).filter (m.nextKeyId ≤ ·) with
  | some newest => ⟨.error (.rotation (.idNotFollowing m.nextKeyId newest)), m, entropy, []⟩
  | none =>
    match (successors m.window now).run.run ⟨m.nextKeyId, entropy⟩ with
    | (.error e, source) => ⟨.error e, { m with nextKeyId := source.nextId }, source.entropy, []⟩
    | (.ok (promoted, next), source) =>
      let window := m.window.rotated now promoted next m.maxRetained
      ⟨.ok (), { m with window, nextKeyId := source.nextId }, source.entropy,
        dropNotice (m.window.retiring now).length m.maxRetained
          ++ [.rotated promoted.id next.id (m.window.evictedCount now)]⟩

/-- **Rotates the keys of a master.** -/
def rotate (m : Manager) (now : Instant) (entropy : Entropy) : Rotation Unit :=
  match m.role with
  | .slave => ⟨.error (.roleForbids .slave .rotate), m, entropy, []⟩
  | .master => m.rotateWindow now entropy

/-- **Rotates the keys of a master if that is due,** and tells whether it was. -/
def rotateIfDue (m : Manager) (now : Instant) (entropy : Entropy) : Rotation Bool :=
  match m.role with
  | .slave => ⟨.error (.roleForbids .slave .rotate), m, entropy, []⟩
  | .master =>
    if m.window.isDue now then
      let r := m.rotateWindow now entropy
      ⟨r.result.map fun _ => true, r.manager, r.entropy, r.events⟩
    else ⟨.ok false, m, entropy, []⟩

/-- **A snapshot of the keys,** if there are any. -/
def exportKeys (m : Manager) : Except AccessError KeyExport :=
  match m.window.toExport? with
  | some e => .ok e
  | none => .error .noCurrentKey

/-- **Takes over the keys of an export** in place of all keys of a slave. -/
def importKeys (m : Manager) (now : Instant) (e : KeyExport) : Except AccessError Manager :=
  match m.role with
  | .master => .error (.roleForbids .master .importKeys)
  | .slave =>
    if e.interval = 0 ∨ e.lifetime = 0 then .error (.malformedKeys .zeroDuration)
    else .ok { m with window := .ofExport e now m.maxRetained }

/-- A master that is polled when nothing is due stays as it is. -/
theorem rotateIfDue_of_not_due {m : Manager} {now : Instant} (hrole : m.role = .master)
    (hdue : m.window.isDue now = false) (entropy : Entropy) :
    m.rotateIfDue now entropy = ⟨.ok false, m, entropy, []⟩ := by
  rw [rotateIfDue, hrole, hdue]
  rfl

/-- The answer that nothing was due is given where a master has nothing due. -/
theorem rotateIfDue_eq_ok_false_iff {m : Manager} {now : Instant} {entropy : Entropy} :
    (m.rotateIfDue now entropy).result = .ok false ↔
      m.role = .master ∧ m.window.isDue now = false := by
  constructor
  · intro h
    unfold rotateIfDue at h
    split at h
    · cases h
    · rename_i hrole
      split at h
      · cases hresult : (m.rotateWindow now entropy).result <;> simp [hresult, Except.map] at h
      · rename_i hdue
        exact ⟨hrole, Bool.eq_false_iff.2 hdue⟩
  · rintro ⟨hrole, hdue⟩
    rw [rotateIfDue_of_not_due hrole hdue]

/-- Only a slave takes over an export, and its window is made anew from the export. -/
theorem eq_of_importKeys {m m' : Manager} {now : Instant} {e : KeyExport}
    (h : m.importKeys now e = .ok m') :
    m.role = .slave ∧ m' = { m with window := .ofExport e now m.maxRetained } := by
  unfold importKeys at h
  split at h
  · cases h
  · rename_i hrole
    split at h
    · cases h
    · cases h
      exact ⟨hrole, rfl⟩

/-- A slave takes over every export with durations that are not zero. -/
theorem importKeys_of_slave {m : Manager} {e : KeyExport} (hrole : m.role = .slave)
    (hinterval : e.interval ≠ 0) (hlifetime : e.lifetime ≠ 0) (now : Instant) :
    m.importKeys now e = .ok { m with window := .ofExport e now m.maxRetained } := by
  simp [importKeys, hrole, hinterval, hlifetime]

theorem exportKeys_eq_ok_iff {m : Manager} {e : KeyExport} :
    m.exportKeys = .ok e ↔ m.window.toExport? = some e := by
  unfold exportKeys
  cases m.window.toExport? <;> simp

/-- What is reported when an export has been taken over. -/
def importEvents (m : Manager) (now : Instant) (e : KeyExport) : List Event :=
  let count := (KeyWindow.retainedOf e now).length
  dropNotice count m.maxRetained ++ [.imported e.current.id (min count m.maxRetained + 1)]

end BlockAccess.Manager
