import BlockAccess.Event
import BlockAccess.Token

/-!
# Authorising inbound calls

The bridge between the layer that receives calls and the verification of tokens. A call comes with
the raw credential of its caller, the block it is about and the mode it needs. It is authorised if
the credential is a block token that grants just that, and only then is it handed on.

The bridge does not know where the keys are: it is given the check of tokens as a function.
-/

namespace BlockAccess

/-- What a caller shows. -/
inductive Credential
  /-- The wire form of a block token. -/
  | blockToken (bytes : List UInt8)
  /-- A credential of some other kind. -/
  | other (kind : String) (bytes : List UInt8)
  deriving DecidableEq, Repr

namespace Credential

/-- The credential that shows a token. -/
def ofToken (t : Token) : Except AccessError Credential := blockToken <$> t.encode

/-- The kind of a credential. -/
def kind : Credential → String
  | blockToken _ => blockTokenKind
  | other kind _ => kind

/-- The bytes of a credential of either sort. -/
def bytes : Credential → List UInt8
  | blockToken bytes => bytes
  | other _ bytes => bytes

end Credential

/-- A call that has come in. -/
structure InboundCall where
  credential : Credential
  /-- Who calls, if that is known. A token must then belong to the caller. -/
  caller? : Option String
  block : Block
  mode : AccessMode
  deriving DecidableEq, Repr

/-- A call that may go on. -/
structure AuthorizedCall where
  identifier : Identifier
  blockId : Int64
  deriving DecidableEq, Repr

namespace InboundCall

/-- The check of a token: for its expected owner, if any, a block and a mode. -/
abbrev Check := Token → Option String → Block → AccessMode → Except AccessError Identifier

/-- **Authorises a call.** -/
def authorize (check : Check) (call : InboundCall) : Except AccessError AuthorizedCall := do
  match call.credential with
  | .other kind _ => throw (.unsupportedCredential kind)
  | .blockToken bytes =>
    let t ← Token.decode bytes
    let x ← check t call.caller? call.block call.mode
    return ⟨x, x.block.id⟩

/-- What is reported about a call with the given outcome. -/
def events (call : InboundCall) (outcome : Except AccessError AuthorizedCall) : List Event :=
  .authorizing call.block call.mode
    :: match outcome with
      | .ok _ => []
      | .error e => [.credentialRejected e]

/-- **Hands an authorised call to a handler.** The handler is run once for a call that is
authorised, and not at all for any other. -/
def dispatch {m : Type → Type} [Monad m] {β : Type} (outcome : Except AccessError AuthorizedCall)
    (handler : AuthorizedCall → m β) : m (Except AccessError β) :=
  match outcome with
  | .ok call => .ok <$> handler call
  | .error e => pure (.error e)

end InboundCall

end BlockAccess
