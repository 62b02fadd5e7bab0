import BlockAccess.Event
import BlockAccess.JsonForms
import BlockAccess.Time.Duration

/-!
# Settings

The durations that govern keys and tokens, whether a slave may issue tokens, and how many retired
keys are kept. A manager is only made from settings that `validate` accepts. A lifetime that is not
shorter than the interval is accepted but reported.
-/

namespace BlockAccess

/-- What a manager is set to do. -/
structure Settings where
  /-- How often a master makes a new current key. -/
  interval : Millis := 600000
  /-- How long a token stays good. -/
  lifetime : Millis := 600000
  /-- Whether a slave may sign tokens with the current key it has imported. -/
  allowSlaveIssuance : Bool := true
  /-- The greatest number of retired keys that are kept. -/
  maxRetained : UInt64 := 16
  deriving DecidableEq, Inhabited, Repr

namespace Settings

/-- The settings before anything is set. -/
def standard : Settings := {}

/-- The standard settings with the given durations. -/
def ofDurations (interval lifetime : Duration) : Settings :=
  { standard with interval := interval.toMillis, lifetime := lifetime.toMillis }

/-- **What is wrong with settings,** if anything is. -/
def fault? (s : Settings) : Option SettingsFault :=
  if s.interval = 0 then some .zeroInterval
  else if s.lifetime = 0 then some .zeroLifetime
  else if s.maxRetained = 0 then some .zeroRetained
  else if Instant.lastMillis < s.interval.toNat ∨ Instant.lastMillis < s.lifetime.toNat then
    some .durationTooLong
  else none

theorem fault?_eq_none_iff {s : Settings} :
    s.fault? = none ↔ s.interval ≠ 0 ∧ s.lifetime ≠ 0 ∧ s.maxRetained ≠ 0 ∧
      (s.interval.toNat : Int) ≤ Instant.lastMillis ∧
      (s.lifetime.toNat : Int) ≤ Instant.lastMillis := by
  unfold fault?
  split
  · simp_all
  split
  · simp_all
  split
  · simp_all
  split
  · rename_i hlong
    simp only [reduceCtorEq, false_iff, not_and]
    omega
  · rename_i hlong
    simp_all

/-- Accepts settings that can be worked with. -/
def validate (s : Settings) : Except AccessError Unit :=
  match s.fault? with
  | some fault => .error (.configuration fault)
  | none => .ok ()

/-- What is reported about settings that are accepted. -/
def notices (s : Settings) : List Event :=
  if s.fault?.isNone ∧ s.interval ≤ s.lifetime then
    [.lifetimeNotShorter s.lifetime s.interval]
  else []

/-- The names of the settings. -/
def names : List String :=
  ["key_update_interval_ms", "token_lifetime_ms", "allow_slave_issuance", "max_retained_keys"]

/-- The JSON text of settings. -/
def jsonText (s : Settings) : String :=
  Json.objectText [
    ("key_update_interval_ms", toString s.interval.toNat),
    ("token_lifetime_ms", toString s.lifetime.toNat),
    ("allow_slave_issuance", Json.boolText s.allowSlaveIssuance),
    ("max_retained_keys", toString s.maxRetained.toNat)]

/-- A field that is read if it is there, and standard otherwise. -/
def fieldOr {α : Type} (standard : α) (read? : Json.Value → Option α) :
    Option Json.Value → Option α
  | none => some standard
  | some v => read? v

/-- The settings that a JSON value describes. What it leaves out is standard. -/
def ofValue? (v : Json.Value) : Option Settings :=
  match Json.fields? names v with
  | some [interval, lifetime, allow, maxRetained] => do
    return {
      interval := ← fieldOr standard.interval Json.Value.uint64? interval
      lifetime := ← fieldOr standard.lifetime Json.Value.uint64? lifetime
      allowSlaveIssuance := ← fieldOr standard.allowSlaveIssuance Json.Value.bool? allow
      maxRetained := ← fieldOr standard.maxRetained Json.Value.uint64? maxRetained }
  | _ => none

/-- **The settings that a JSON text describes.** They are not validated. -/
def ofJson (text : String) : Except AccessError Settings :=
  ofJsonText ofValue? text

end Settings

end BlockAccess
