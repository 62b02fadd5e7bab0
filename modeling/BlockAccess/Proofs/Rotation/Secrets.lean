import BlockAccess.Manager.Access
import BlockAccess.Proofs.Rotation.Effect

/-!
# What managers read of their keys

A manager decides by the ids and the expiries of its keys. Their secrets are passed on, and they are
signed with, but nothing is ever decided by them. So a secret may be replaced by anything that is
made of it, before an operation or after: `mapSecret`, `mapSecrets` replace the secrets of a key,
a window, an export and a manager, and the operations that do not sign or draw commute with that.

## Main results

* `KeyWindow.mapSecrets_rotated`, `KeyWindow.mapSecrets_ofExport` — windows are made alike.
* `Manager.mapSecrets_exportKeys`, `Manager.mapSecrets_importKeys` — so are exports and imports.
* `Manager.checkIdentifier_mapSecrets`, `Manager.summary_mapSecrets` — answers stay the same.
-/

namespace BlockAccess

variable (g : List UInt8 → List UInt8)

/-! ## Keys -/

namespace BlockKey

/-- The key with the secret that `g` makes of its own. -/
def mapSecret (k : BlockKey) : BlockKey := { k with secret := g k.secret }

@[simp] theorem isExpired_mapSecret (k : BlockKey) (now : Instant) :
    (k.mapSecret g).isExpired now = k.isExpired now := rfl

@[simp] theorem mapSecret_extendedTo (k : BlockKey) (expiry : Instant) :
    (k.extendedTo expiry).mapSecret g = (k.mapSecret g).extendedTo expiry := rfl

end BlockKey

/-- The export with the secrets that `g` makes of its own. -/
def KeyExport.mapSecrets (e : KeyExport) : KeyExport :=
  { e with current := e.current.mapSecret g, others := e.others.map (·.mapSecret g) }

/-! ## Windows -/

namespace KeyWindow

/-- The window with the secrets that `g` makes of its own. -/
def mapSecrets (w : KeyWindow) : KeyWindow :=
  { w with
    current? := w.current?.map (·.mapSecret g)
    next? := w.next?.map (·.mapSecret g)
    retained := w.retained.map (·.mapSecret g) }

variable (w : KeyWindow) (now : Instant)

theorem keys_mapSecrets : (w.mapSecrets g).keys = w.keys.map (·.mapSecret g) := by
  simp only [keys, mapSecrets, List.map_append]
  cases w.current? <;> cases w.next? <;> rfl

theorem candidates_mapSecrets :
    (w.mapSecrets g).candidates now = (w.candidates now).map (·.mapSecret g) := by
  simp only [candidates, keys_mapSecrets, List.filter_map, Function.comp_def,
    BlockKey.isExpired_mapSecret]

theorem find?_mapSecrets (id : KeyId) :
    (w.mapSecrets g).find? id now = (w.find? id now).map (·.mapSecret g) := by
  simp only [find?, candidates_mapSecrets, List.find?_map]
  rfl

theorem retiring_mapSecrets :
    (w.mapSecrets g).retiring now = (w.retiring now).map (·.mapSecret g) := by
  simp only [retiring, mapSecrets, Option.map_map, List.map_append, List.filter_map,
    Function.comp_def, BlockKey.isExpired_mapSecret]
  cases w.current? <;> rfl

theorem evictedCount_mapSecrets : (w.mapSecrets g).evictedCount now = w.evictedCount now := by
  rw [evictedCount, evictedCount, retiring_mapSecrets, List.length_map]
  simp only [mapSecrets, List.length_map]
  cases w.current? <;> rfl

theorem isDue_mapSecrets : (w.mapSecrets g).isDue now = w.isDue now := by
  simp only [isDue, mapSecrets, Option.isNone_map]
  rfl

/-- **A rotation passes the secrets on.** -/
theorem mapSecrets_rotated (promoted next : BlockKey) (limit : Nat) :
    (w.rotated now promoted next limit).mapSecrets g
      = (w.mapSecrets g).rotated now (promoted.mapSecret g) (next.mapSecret g) limit := by
  simp only [rotated, retiring_mapSecrets, ← List.map_take]
  rfl

/-- The order in which an importer keeps the retired keys is that of their ids. -/
theorem mapSecrets_retainedOf (e : KeyExport) :
    (retainedOf e now).map (·.mapSecret g) = retainedOf (e.mapSecrets g) now := by
  have hsorted (ks : List BlockKey) :
      (ks.mergeSort fun a b => b.id ≤ a.id).map (·.mapSecret g)
        = (ks.map (·.mapSecret g)).mergeSort fun a b => b.id ≤ a.id :=
    List.map_mergeSort fun a _ b _ => rfl
  simp only [retainedOf, hsorted, KeyExport.mapSecrets, List.filter_map]
  rfl

/-- **So does an import.** -/
theorem mapSecrets_ofExport (e : KeyExport) (limit : Nat) :
    (ofExport e now limit).mapSecrets g = ofExport (e.mapSecrets g) now limit := by
  simp only [ofExport, ← mapSecrets_retainedOf, ← List.map_take]
  rfl

/-- **So does an export.** -/
theorem mapSecrets_toExport? :
    (w.mapSecrets g).toExport? = w.toExport?.map (·.mapSecrets g) := by
  simp only [toExport?, mapSecrets, Option.map_map]
  cases w.current? with
  | none => rfl
  | some current =>
    cases w.next? <;> simp [KeyExport.mapSecrets]

end KeyWindow

/-! ## Managers -/

namespace Manager

/-- The manager with the secrets that `g` makes of its own. -/
def mapSecrets (m : Manager) : Manager := { m with window := m.window.mapSecrets g }

variable (m : Manager) (now : Instant)

theorem newestId?_mapSecrets (w : KeyWindow) : newestId? (w.mapSecrets g) = newestId? w := by
  simp only [newestId?, KeyWindow.mapSecrets]
  cases w.next? <;> cases w.current? <;> rfl

/-- What a rotation makes of a master is made of its keys and of the secret that was drawn. -/
theorem mapSecrets_renewed (next : BlockKey) (secret : List UInt8) :
    (m.renewed now next secret).mapSecrets g
      = (m.mapSecrets g).renewed now (next.mapSecret g) (g secret) := by
  simp only [renewed, mapSecrets, KeyWindow.mapSecrets_rotated, BlockKey.mapSecret_extendedTo]
  rfl

theorem currentKeyId?_mapSecrets : (m.mapSecrets g).currentKeyId? = m.currentKeyId? := by
  simp only [currentKeyId?, mapSecrets, KeyWindow.mapSecrets, Option.map_map]
  rfl

/-- The line about a manager shows ids and numbers of keys. -/
theorem summary_mapSecrets : (m.mapSecrets g).summary = m.summary := by
  have hnext : ((m.mapSecrets g).window.next?.map (·.id)) = m.window.next?.map (·.id) := by
    simp only [mapSecrets, KeyWindow.mapSecrets, Option.map_map]
    rfl
  have hretained : (m.mapSecrets g).window.retained.length = m.window.retained.length :=
    List.length_map _
  have hrole : (m.mapSecrets g).role = m.role := rfl
  unfold summary
  rw [currentKeyId?_mapSecrets, hnext, hretained, hrole]

theorem mapSecrets_exportKeys :
    (m.mapSecrets g).exportKeys = m.exportKeys.map (·.mapSecrets g) := by
  have hexport : (m.mapSecrets g).window.toExport? = m.window.toExport?.map (·.mapSecrets g) :=
    m.window.mapSecrets_toExport? g
  simp only [exportKeys, hexport]
  cases m.window.toExport? <;> rfl

theorem mapSecrets_importKeys (e : KeyExport) :
    (m.mapSecrets g).importKeys now (e.mapSecrets g)
      = (m.importKeys now e).map (·.mapSecrets g) := by
  obtain ⟨role, slaveMayIssue, maxRetained, window, nextKeyId⟩ := m
  cases role with
  | master => rfl
  | slave =>
    by_cases hzero : e.interval = 0 ∨ e.lifetime = 0
    · have hzero' : (e.mapSecrets g).interval = 0 ∨ (e.mapSecrets g).lifetime = 0 := hzero
      simp only [importKeys, mapSecrets, if_pos hzero, if_pos hzero', Except.map]
    · have hzero' : ¬ ((e.mapSecrets g).interval = 0 ∨ (e.mapSecrets g).lifetime = 0) := hzero
      simp only [importKeys, mapSecrets, if_neg hzero, if_neg hzero', Except.map,
        KeyWindow.mapSecrets_ofExport]

theorem importEvents_mapSecrets (e : KeyExport) :
    (m.mapSecrets g).importEvents now (e.mapSecrets g) = m.importEvents now e := by
  simp only [importEvents, ← KeyWindow.mapSecrets_retainedOf, List.length_map]
  rfl

/-- **Which key an identifier names is seen from its id,** so that the secrets have no part in
whether it is accepted. -/
theorem checkIdentifier_mapSecrets (x : Identifier) (owner? : Option String) (block : Block)
    (mode : AccessMode) :
    (m.mapSecrets g).checkIdentifier now x owner? block mode
      = m.checkIdentifier now x owner? block mode := by
  have hkey : (m.mapSecrets g).window.find? x.keyId now
      = (m.window.find? x.keyId now).map (·.mapSecret g) := m.window.find?_mapSecrets g now x.keyId
  simp only [checkIdentifier, hkey]
  cases m.window.find? x.keyId now <;> rfl

end Manager

end BlockAccess
