import BlockAccess.Text.Utf8

/-!
# Faults of the wire forms

The three things that travel as bytes are named by `Form`. A `Fault` stops the reading of bytes
half way; a `Flaw` is any reason for which bytes, or a value to be written as bytes, are refused.
-/

namespace BlockAccess.Wire

/-- No identifier and no token is longer than this, and no reader takes in more. -/
def maxEncodedSize : Nat := 65536

/-- What is written as bytes. -/
inductive Form
  | identifier
  | token
  | keys
  deriving DecidableEq, Repr

/-- The name of a form in messages. -/
def Form.label : Form → String
  | .identifier => "block token identifier"
  | .token => "block token"
  | .keys => "exported block keys"

/-- Why the reading of bytes stopped. -/
inductive Fault
  /-- The bytes end `missing` bytes too early for what was to be read. -/
  | unexpectedEnd (missing : Nat)
  /-- More would be taken in than `maxEncodedSize`. -/
  | limitExceeded
  /-- The bytes of a text are not UTF-8. -/
  | notText (fault : Utf8Fault)
  deriving DecidableEq, Repr

/-- The wording of a fault. -/
def Fault.message : Fault → String
  | .unexpectedEnd missing => "UnexpectedEnd \x7b additional: " ++ toString missing ++ " \x7d"
  | .limitExceeded => "LimitExceeded"
  | .notText ⟨validUpTo, length?⟩ =>
    let length := match length? with
      | some n => "Some(" ++ toString n ++ ")"
      | none => "None"
    "Utf8 \x7b inner: Utf8Error \x7b valid_up_to: " ++ toString validUpTo ++ ", error_len: "
      ++ length ++ " \x7d \x7d"

end BlockAccess.Wire
