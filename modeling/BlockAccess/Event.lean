import BlockAccess.AccessError

/-!
# Events

What the library reports about its work, as data. `Event.entry` gives the form in which an event is
written to a log: a level, a message, and named fields that are all text.
-/

namespace BlockAccess

/-- Something worth reporting. -/
inductive Event
  | lifetimeNotShorter (lifetime interval : Millis)
  | initialKeys (key : KeyId)
  | rotated (current next : KeyId) (evicted : Nat)
  | retainedDropped (retained limit : Nat)
  | imported (current : KeyId) (count : Nat)
  | minted (block : Block) (modes : AccessModes) (key : KeyId)
  | poolAdded (pool : String) (role : Role)
  | poolRemoved (pool : String)
  /-- A call is about to be authorised. -/
  | authorizing (block : Block) (mode : AccessMode)
  | credentialRejected (error : AccessError)
  | rotationStopped (error : AccessError)
  | delivered (keys : List KeyId)
  | deliveryFailed (error : AccessError)
  deriving DecidableEq, Repr

/-- How urgent an event is. -/
inductive LogLevel
  | debug
  | info
  | warn
  | error
  deriving DecidableEq, Repr

/-- The name of a level. -/
def LogLevel.name : LogLevel → String
  | debug => "DEBUG"
  | info => "INFO"
  | warn => "WARN"
  | error => "ERROR"

/-- An entry of a log. -/
structure LogEntry where
  level : LogLevel
  /-- The name of a stretch of work that begins; `none` for a single event. -/
  span? : Option String
  fields : List (String × String)
  deriving DecidableEq, Repr

namespace Event

def single (level : LogLevel) (message : String) (fields : List (String × String)) :
    LogEntry :=
  ⟨level, none, ("message", message) :: fields⟩

def idText (id : KeyId) : String := toString id.toNat

/-- The entry of an event. -/
def entry : Event → LogEntry
  | lifetimeNotShorter lifetime interval =>
    single .warn "token lifetime is not shorter than the key update interval"
      [("token_lifetime_ms", toString lifetime.toNat),
        ("key_update_interval_ms", toString interval.toNat)]
  | initialKeys key => single .debug "generated initial block keys" [("key_id", idText key)]
  | rotated current next evicted =>
    single .debug "rotated block keys"
      [("current_key_id", idText current), ("next_key_id", idText next),
        ("evicted", toString evicted)]
  | retainedDropped retained limit =>
    single .warn "dropping unexpired block keys beyond the retained window"
      [("retained", toString retained), ("max_retained_keys", toString limit)]
  | imported current count =>
    single .debug "imported block keys"
      [("current_key_id", idText current), ("imported", toString count)]
  | minted block modes key =>
    single .debug "generated block token"
      [("block", block.text), ("modes", modes.text), ("key_id", idText key)]
  | poolAdded pool role =>
    single .debug "registered block pool" [("pool_id", pool), ("role", role.name)]
  | poolRemoved pool => single .debug "removed block pool" [("pool_id", pool)]
  | authorizing block mode =>
    ⟨.info, some "authorize", [("block", block.text), ("mode", mode.name)]⟩
  | credentialRejected error =>
    single .warn "rejected block token credential" [("error", error.message)]
  | rotationStopped error =>
    single .error "block key rotation failed, stopping rotation task" [("error", error.message)]
  | delivered keys =>
    single .debug "distributed block keys"
      [("key_ids", "[" ++ ", ".intercalate (keys.map idText) ++ "]")]
  | deliveryFailed error =>
    single .warn "failed to distribute block keys, will retry" [("error", error.message)]

end Event

end BlockAccess
