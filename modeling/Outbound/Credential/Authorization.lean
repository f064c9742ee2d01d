import Outbound.Encoding.Base64
import Outbound.Message.Header
import Outbound.Token.Access

/-!
# Authorization values

The two schemes in which credentials are written into a header.

* **basic** — user name and password, joined by a colon, in padded base 64;
* **bearer** — a token as it is, which has to consist of legal bytes.
-/

namespace Outbound

open Outbound.Encoding Outbound.Text

/-- A header value, or the failure that it is not legal. -/
def authorizationValue (s : String) : Except ConfigFailure HeaderValue :=
  match HeaderValue.ofString? s with
  | some v => .ok v
  | none => .error .invalidHeaderValue

/-- What follows the name of the basic scheme. -/
def basicCredentials (username password : String) : String :=
  String.ofList (Base64.encode .standard true (Utf8.bytes (username ++ ":" ++ password)))

/-- **The value of the basic scheme.** -/
def basicValue (username password : String) : Except ConfigFailure HeaderValue :=
  authorizationValue ("Basic " ++ basicCredentials username password)

/-- **The value of the bearer scheme.** -/
def bearerValue (token : AccessToken) : Except ConfigFailure HeaderValue :=
  authorizationValue ("Bearer " ++ token.text)

end Outbound
