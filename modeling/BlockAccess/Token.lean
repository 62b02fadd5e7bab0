import BlockAccess.Identifier.Wire
import BlockAccess.Text.Quoted

/-!
# Tokens

A token carries the wire form of an identifier and the password that signs it, together with its
kind and the service it is meant for. It travels as bytes, or as a text of URL-safe base64.
-/

namespace BlockAccess

/-- The kind of every block access token. -/
def blockTokenKind : String := "BLOCK_ACCESS_TOKEN"

/-- A token, as handed to a client. -/
structure Token where
  /-- The wire form of an identifier. -/
  identifier : List UInt8
  /-- The signature of the identifier. -/
  password : List UInt8
  kind : String
  service : String
  deriving DecidableEq, Inhabited, Repr

namespace Token

/-- The block token with the given content, for no service in particular. -/
def ofSigned (identifier password : List UInt8) : Token :=
  ⟨identifier, password, blockTokenKind, ""⟩

/-- The same token, meant for a service. -/
def forService (t : Token) (service : String) : Token := { t with service }

def isBlockToken (t : Token) : Bool := t.kind = blockTokenKind

/-- The identifier that a block token carries. -/
def decodeIdentifier (t : Token) : Except AccessError Identifier :=
  if t.isBlockToken then Identifier.decode t.identifier
  else .error (.malformedToken (.foreignKind t.kind))

/-- The bytes of a token, of whatever length. -/
def wireBytes (t : Token) : List UInt8 :=
  Wire.putBytes t.identifier ++ Wire.putBytes t.password ++ Wire.putText t.kind
    ++ Wire.putText t.service

/-- **The wire form of a token,** unless it is too long. -/
def encode (t : Token) : Except AccessError (List UInt8) :=
  (Wire.bounded .token t.wireBytes).mapError .malformedToken

/-- Reads a token. -/
def reader : Wire.Reader Token := do
  let identifier ← Wire.readBytes
  let password ← Wire.readBytes
  let kind ← Wire.readText
  let service ← Wire.readText
  return ⟨identifier, password, kind, service⟩

/-- **The token of a wire form.** -/
def decode (bytes : List UInt8) : Except AccessError Token :=
  (Wire.readExact .token reader bytes).mapError .malformedToken

/-- **The text form of a token:** the base64 text of its wire form. -/
def encodeUrl (t : Token) : Except AccessError String := Base64Url.encode <$> t.encode

/-- **The token of a text form.** -/
def decodeUrl (text : String) : Except AccessError Token :=
  match Base64Url.decode text with
  | .error fault => .error (.malformedToken (.notBase64 fault))
  | .ok bytes => decode bytes

/-- A line about a token that keeps its password. -/
def redactedText (t : Token) : String :=
  "Token \x7b kind: " ++ Quoted.quote t.kind ++ ", service: " ++ Quoted.quote t.service
    ++ ", identifier_len: " ++ toString t.identifier.length ++ ", .. \x7d"

/-- Whether the token is a block token for the given service. -/
def isFor (t : Token) (service : String) : Bool := t.isBlockToken && t.service = service

/-- The first of the tokens that is a block token for the given service. -/
def select? (tokens : List Token) (service : String) : Option Token :=
  tokens.find? (·.isFor service)

end Token

end BlockAccess
