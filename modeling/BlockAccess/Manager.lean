import BlockAccess.Key.Source
import BlockAccess.Settings
import BlockAccess.Window

/-!
# Managers

A manager holds a key window and the policy it works by. It has no clock of its own: every operation
that depends on time is given the time. `Manager.newMaster` and `Manager.newSlave` make managers;
the other operations are in `BlockAccess.Manager.Keys` and `BlockAccess.Manager.Access`.
-/

namespace BlockAccess

/-- The holder of a key window. -/
structure Manager where
  role : Role
  /-- Whether tokens may be signed in spite of being a slave. -/
  slaveMayIssue : Bool
  /-- The greatest number of retired keys that are kept. -/
  maxRetained : Nat
  window : KeyWindow
  /-- The id of the next fresh key; only a master makes keys. -/
  nextKeyId : KeyId
  deriving DecidableEq, Inhabited, Repr

namespace Manager

/-- The manager with the given settings. -/
def ofSettings (role : Role) (s : Settings) (window : KeyWindow) (nextKeyId : KeyId) : Manager :=
  ⟨role, s.allowSlaveIssuance, s.maxRetained.toNat, window, nextKeyId⟩

/-- Draws the first two keys of a master: the key that is current for the first interval, and the
one for the interval after. -/
def firstKeys (s : Settings) (now : Instant) : Drawing (BlockKey × BlockKey) := do
  KeySource.chooseFirstId
  let current ← KeySource.freshKey ((now.after s.interval).after s.lifetime)
  let next ← KeySource.freshKey (current.expiry.after s.interval)
  return (current, next)

/-- The making of a manager: the manager or the reason why there is none, the entropy left, and
what is to be reported. -/
structure Creation where
  result : Except AccessError Manager
  entropy : Entropy
  events : List Event

/-- **A master with two fresh keys.** -/
def newMaster (s : Settings) (now : Instant) (entropy : Entropy) : Creation :=
  match s.validate with
  | .error e => ⟨.error e, entropy, []⟩
  | .ok () =>
    match (firstKeys s now).run.run ⟨0, entropy⟩ with
    | (.error e, source) => ⟨.error e, source.entropy, s.notices⟩
    | (.ok (current, next), source) =>
      let window : KeyWindow := ⟨some current, some next, [], now, s.interval, s.lifetime⟩
      ⟨.ok (ofSettings .master s window source.nextId), source.entropy,
        s.notices ++ [.initialKeys current.id]⟩

/-- **A slave without keys.** It can verify nothing before it has imported some. -/
def newSlave (s : Settings) (now : Instant) (entropy : Entropy) : Creation :=
  match s.validate with
  | .error e => ⟨.error e, entropy, []⟩
  | .ok () =>
    ⟨.ok (ofSettings .slave s (.empty now s.interval s.lifetime) 0), entropy, s.notices⟩

/-- A manager of the given role. -/
def create (role : Role) (s : Settings) (now : Instant) (entropy : Entropy) : Creation :=
  match role with
  | .master => newMaster s now entropy
  | .slave => newSlave s now entropy

def isMaster (m : Manager) : Bool := m.role = .master

/-- The id of the current key. -/
def currentKeyId? (m : Manager) : Option KeyId := m.window.current?.map (·.id)

/-- The text of an id that may be missing. -/
def idText : Option KeyId → String
  | some id => "Some(" ++ toString id.toNat ++ ")"
  | none => "None"

/-- A line about a manager that tells no secret. -/
def summary (m : Manager) : String :=
  let role := match m.role with
    | .master => "Master"
    | .slave => "Slave"
  "BlockTokenSecretManager \x7b role: " ++ role ++ ", current_key_id: " ++ idText m.currentKeyId?
    ++ ", next_key_id: " ++ idText (m.window.next?.map (·.id)) ++ ", retained_keys: "
    ++ toString m.window.retained.length ++ ", .. \x7d"

end Manager

end BlockAccess
