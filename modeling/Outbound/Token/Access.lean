import Outbound.Number.Binary64
import Outbound.Time.Duration
import Outbound.Token.Claims

/-!
# Access tokens

A token with the deadline after which it has to be replaced.

* **issued tokens** — the deadline lies at four fifths of the lifetime that the claims state, so
  that a token is replaced before the server refuses it;
* **supplied tokens** — have no deadline, which a negative number of milliseconds stands for; the
  deadline of an issued token is never negative;
* **arithmetic** — the deadline is computed in double precision, each step rounded, and its fraction
  of a millisecond is dropped.
-/

namespace Outbound

open Outbound.Number Outbound.Time Outbound.Text

/-- **Access tokens.** The deadline is in milliseconds since the epoch. -/
structure AccessToken where
  text : String
  expiresAtMillis : Int
  deriving DecidableEq

namespace AccessToken

/-- The greatest signed number of 64 bits. -/
def int64Max : Int := 0x7FFFFFFFFFFFFFFF

/-- The least signed number of 64 bits. -/
def int64Min : Int := -0x8000000000000000

/-- The nearest signed number of 64 bits. -/
def saturate (n : Int) : Int := max int64Min (min n int64Max)

/-- The double nearest to four fifths. -/
def refreshRatio : Rat := nearest (4 / 5)

/-- **The deadline of a lifetime**, from seconds to milliseconds. -/
def deadlineMillis (issuedAt expiresAt : Int) : Int :=
  let lifetime := nearest (saturate (expiresAt - issuedAt) : Int)
  let refreshAt := nearest (nearest (issuedAt : Int) + nearest (refreshRatio * lifetime))
  saturate (truncate (nearest (refreshAt * 1000)))

/-- **A token that the caller looks after**, without a deadline. -/
def supplied (text : String) : AccessToken := ⟨text, -1⟩

/-- The claim, or the failure that it is missing. -/
def need (claim : String) : Option Int → Except TokenFailure Int
  | some n => .ok n
  | none => .error (.missingClaim claim)

/-- **An issued token.** Both ends of its lifetime must be stated, in order, and its deadline must
not lie before the epoch. -/
def issued (text : String) (claims : Claims) : Except TokenFailure AccessToken := do
  let issuedAt ← need "iat" (← claims.issuedAt)
  let expiresAt ← need "exp" (← claims.expiresAt)
  if expiresAt < issuedAt then throw (.invalidLifetime issuedAt expiresAt)
  let deadline := deadlineMillis issuedAt expiresAt
  if deadline < 0 then throw (.invalidLifetime issuedAt expiresAt)
  return ⟨text, deadline⟩

/-- **A token with the deadline that its own claims yield.** -/
def decode (text : String) : Except TokenFailure AccessToken := do
  issued text (← Claims.decode text)

variable (t : AccessToken)

/-- Whether the token has no deadline. -/
def neverExpires : Bool := t.expiresAtMillis < 0

/-- **Validity at an instant.** An empty token is never valid; a deadline counts to its last
nanosecond. -/
def isValidAt (now : Instant) : Bool :=
  !t.text.isEmpty && (t.neverExpires || Instant.millis now ≤ t.expiresAtMillis)

/-- A token as diagnostics show it: the token itself is not shown. -/
def redacted : String :=
  s!"AccessToken \x7b token: \"<redacted>\", expires_at_millis: {t.expiresAtMillis} \x7d"

end AccessToken

end Outbound
