import BlockAccess.Identifier
import BlockAccess.Role
import BlockAccess.Text.Base64Url
import BlockAccess.Wire.Fault

/-!
# Refusals

Every operation that can fail answers with an `AccessError`: its cause, as data. The wording is
given once, by `AccessError.message`. The causes for which a presented token is turned away, as
opposed to a failure of the machinery, are told apart by `AccessError.isRejection`.
-/

namespace BlockAccess

/-- Why bytes or texts are no token, no identifier or no export. -/
inductive Flaw
  /-- The reading stopped. -/
  | unreadable (fault : Wire.Fault)
  /-- Bytes follow the value. -/
  | trailing (count : Nat) (form : Wire.Form)
  /-- The value has a written form that is too long to be read again. -/
  | oversized (size : Nat) (form : Wire.Form)
  /-- Bits of the mode byte are set that stand for no mode. -/
  | unknownModes (bits : UInt8)
  /-- The token is of another kind. -/
  | foreignKind (kind : String)
  /-- The text of a token is no base64. -/
  | notBase64 (fault : Base64Url.Fault)
  /-- An export carries a duration of zero. -/
  | zeroDuration
  deriving DecidableEq, Repr

namespace Flaw

/-- The eight binary digits of a byte, after `0b`. -/
def binaryText (b : UInt8) : String :=
  "0b" ++ String.ofList ((List.range 8).map fun i => if b.toNat.testBit (7 - i) then '1' else '0')

/-- The wording of a flaw. -/
def message : Flaw → String
  | unreadable fault => fault.message
  | trailing count form => toString count ++ " bytes of trailing data after " ++ form.label
  | oversized size form =>
    "encoded " ++ form.label ++ " is " ++ toString size ++ " bytes, over the "
      ++ toString Wire.maxEncodedSize ++ " byte limit"
  | unknownModes bits => "unknown access mode bits " ++ binaryText bits
  | foreignKind kind => "unexpected token kind " ++ kind
  | notBase64 fault => "invalid base64: " ++ fault.message
  | zeroDuration => "zero duration in exported keys"

end Flaw

/-- What a role may be too low, or too high, for. -/
inductive Operation
  | rotate
  | importKeys
  | mint
  deriving DecidableEq, Repr

/-- The name of an operation in messages. -/
def Operation.name : Operation → String
  | rotate => "rotate"
  | importKeys => "set_keys"
  | mint => "generate_token"

/-- Why keys could not be renewed. -/
inductive RotationFault
  /-- There were not enough random bytes. -/
  | entropy
  /-- The greatest key id has been given out. -/
  | idsExhausted
  /-- The next id to be given out is not above the ids in use. -/
  | idNotFollowing (next newest : KeyId)
  /-- A rotation task broke down. -/
  | taskIncomplete
  deriving DecidableEq, Repr

/-- The wording of a rotation fault. -/
def RotationFault.message : RotationFault → String
  | entropy => "OS random number generator failed: Unknown Error: 131079"
  | idsExhausted => "block key id space exhausted"
  | idNotFollowing next newest =>
    "next key id " ++ toString next.toNat ++ " does not follow key id " ++ toString newest.toNat
  | taskIncomplete => "rotation task did not complete"

/-- Why settings, or the plane that distributes keys, cannot be worked with. -/
inductive SettingsFault
  | zeroInterval
  | zeroLifetime
  | zeroRetained
  | durationTooLong
  | controlPlaneUnavailable
  deriving DecidableEq, Repr

/-- The wording of a settings fault. -/
def SettingsFault.message : SettingsFault → String
  | zeroInterval => "key_update_interval_ms must be greater than zero"
  | zeroLifetime => "token_lifetime_ms must be greater than zero"
  | zeroRetained => "max_retained_keys must be greater than zero"
  | durationTooLong => "durations must fit in a signed 64-bit millisecond count"
  | controlPlaneUnavailable => "control plane unavailable"

/-- The cause of a refusal. -/
inductive AccessError
  | expired (expiry now : Instant)
  | invalidSignature
  | blockMismatch (tokenBlock requested : Block)
  | ownerMismatch (expected : String)
  | accessDenied (mode : AccessMode)
  | roleForbids (role : Role) (operation : Operation)
  | duplicatePool (pool : String)
  | unknownPool (pool : String)
  | malformedToken (flaw : Flaw)
  | malformedKeys (flaw : Flaw)
  | noCurrentKey
  | unsupportedCredential (kind : String)
  | rotation (fault : RotationFault)
  | configuration (fault : SettingsFault)
  /-- A settings file or variable cannot be made sense of. -/
  | unreadableSettings
  /-- A text is no JSON, or JSON of another shape. -/
  | unreadableJson
  deriving DecidableEq, Repr

namespace AccessError

/-- The wording of a refusal. -/
def message : AccessError → String
  | expired expiry now =>
    "block token expired at " ++ expiry.decimal ++ " (now " ++ now.decimal ++ ")"
  | invalidSignature => "block token signature does not match any known key"
  | blockMismatch tokenBlock requested =>
    "block token is for block " ++ tokenBlock.text ++ ", not " ++ requested.text
  | ownerMismatch expected => "block token owner does not match the expected owner " ++ expected
  | accessDenied mode => "block token does not grant " ++ mode.name ++ " access"
  | roleForbids role operation =>
    "operation not permitted for a " ++ role.name ++ " secret manager: " ++ operation.name
  | duplicatePool pool => "block pool " ++ pool ++ " is already registered"
  | unknownPool pool => "block pool " ++ pool ++ " is not registered"
  | malformedToken flaw => "malformed block token: " ++ flaw.message
  | malformedKeys flaw => "malformed block key export: " ++ flaw.message
  | noCurrentKey => "no current block key is available"
  | unsupportedCredential kind => "unsupported credential kind: " ++ kind
  | rotation fault => "key rotation failed: " ++ fault.message
  | configuration fault => "Configuration error: " ++ fault.message
  | unreadableSettings => "Configuration source error"
  | unreadableJson => "serialization failed"

/-- Whether the refusal turns a presented token away, and is not a failure of the machinery. -/
def isRejection : AccessError → Bool
  | expired .. | invalidSignature | blockMismatch .. | ownerMismatch _ | accessDenied _
  | malformedToken _ | unsupportedCredential _ | unknownPool _ => true
  | roleForbids .. | duplicatePool _ | malformedKeys _ | noCurrentKey | rotation _
  | configuration _ | unreadableSettings | unreadableJson => false

end AccessError

end BlockAccess
