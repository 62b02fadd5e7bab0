import BlockAccess.AccessError
import BlockAccess.Entropy
import BlockAccess.Key

/-!
# Fresh keys

A master numbers its keys one after the other and draws their secrets from a source of entropy. An
id is taken before the secret is drawn; if the draw fails the id is used up all the same, and no
later key gets it.

## Main results

* `KeySource.run_freshKey` — all that the making of a key can come to.
-/

namespace BlockAccess

/-- Where fresh keys come from: the next id, and the entropy. -/
structure KeySource where
  nextId : KeyId
  entropy : Entropy
  deriving DecidableEq, Repr

/-- A drawing of keys. What was taken from the source before a failure stays taken. -/
abbrev Drawing (α : Type) := ExceptT AccessError (StateM KeySource) α

namespace KeySource

/-- Takes the next id. The greatest id is never given out. -/
def takeId : Drawing KeyId := do
  let source ← get
  if source.nextId.toNat + 1 < UInt32.size then
    set { source with nextId := source.nextId + 1 }
    return source.nextId
  else throw (.rotation .idsExhausted)

/-- Draws random bytes. -/
def takeBytes (n : Nat) : Drawing (List UInt8) := do
  let source ← get
  match source.entropy.draw? n with
  | some (bytes, entropy) =>
    set { source with entropy }
    return bytes
  | none => throw (.rotation .entropy)

/-- Makes a key with the given id. -/
def keyWithId (id : KeyId) (expiry : Instant) : Drawing BlockKey :=
  return ⟨id, expiry, ← takeBytes BlockKey.secretLength⟩

/-- Makes a key with the next id. -/
def freshKey (expiry : Instant) : Drawing BlockKey := do
  let id ← takeId
  keyWithId id expiry

/-- The number that bytes write, least significant first. -/
def ofLittleEndian : List UInt8 → Nat
  | [] => 0
  | b :: bs => b.toNat + 256 * ofLittleEndian bs

/-- The greatest first id. -/
def maxFirstId : Nat := 0x7FFFFFFF

/-- Begins the numbering at a random id, so that it is unlikely to meet that of an earlier run. The
ids begin at 1 and leave half of their range for those that follow. -/
def chooseFirstId : Drawing Unit := do
  let bytes ← takeBytes 4
  modify fun source =>
    { source with nextId := UInt32.ofNat (ofLittleEndian bytes % maxFirstId + 1) }

/-! ## What drawings leave behind -/

theorem run_bind {α β : Type} (d : Drawing α) (f : α → Drawing β) (source : KeySource) :
    (d >>= f).run.run source =
      match d.run.run source with
      | (.ok a, left) => (f a).run.run left
      | (.error e, left) => (.error e, left) := by
  show (match d source with | (a, left) => ExceptT.bindCont f a left) =
    match d source with
    | (.ok a, left) => f a left
    | (.error e, left) => (.error e, left)
  rcases d source with ⟨_ | _, left⟩ <;> rfl

theorem run_takeId (source : KeySource) :
    takeId.run.run source =
      if source.nextId.toNat + 1 < UInt32.size then
        (.ok source.nextId, { source with nextId := source.nextId + 1 })
      else (.error (.rotation .idsExhausted), source) := by
  show (if source.nextId.toNat + 1 < UInt32.size then _ else _ : Drawing KeyId) source = _
  split <;> rfl

theorem run_takeBytes (n : Nat) (source : KeySource) :
    (takeBytes n).run.run source =
      match source.entropy.draw? n with
      | some (bytes, entropy) => (.ok bytes, { source with entropy })
      | none => (.error (.rotation .entropy), source) := by
  show (match source.entropy.draw? n with
    | some (bytes, entropy) => _
    | none => _ : Drawing (List UInt8)) source = _
  cases source.entropy.draw? n <;> rfl

theorem run_keyWithId (id : KeyId) (expiry : Instant) (source : KeySource) :
    (keyWithId id expiry).run.run source =
      match source.entropy.draw? BlockKey.secretLength with
      | some (secret, entropy) => (.ok ⟨id, expiry, secret⟩, { source with entropy })
      | none => (.error (.rotation .entropy), source) := by
  rw [keyWithId, run_bind, run_takeBytes]
  cases source.entropy.draw? BlockKey.secretLength <;> rfl

/-- **All that the making of a key can come to.** The id is gone even when the secret fails. -/
theorem run_freshKey (expiry : Instant) (source : KeySource) :
    (freshKey expiry).run.run source =
      if source.nextId.toNat + 1 < UInt32.size then
        match source.entropy.draw? BlockKey.secretLength with
        | some (secret, entropy) =>
          (.ok ⟨source.nextId, expiry, secret⟩, ⟨source.nextId + 1, entropy⟩)
        | none => (.error (.rotation .entropy), { source with nextId := source.nextId + 1 })
      else (.error (.rotation .idsExhausted), source) := by
  rw [freshKey, run_bind, run_takeId]
  by_cases hid : source.nextId.toNat + 1 < UInt32.size
  · rw [if_pos hid, if_pos hid]
    exact run_keyWithId source.nextId expiry { source with nextId := source.nextId + 1 }
  · rw [if_neg hid, if_neg hid]

end KeySource

end BlockAccess
