import Outbound.Credential.Authorization
import Outbound.Credential.Config
import Outbound.Encoding.Form
import Outbound.Session.Transport
import Outbound.Token.Answer

/-!
# Issuers

An issuer exchanges an API key for access tokens, and the session keeps the latest one until its
deadline has passed.

* **request** — every token request of an issuer is the same: it depends on nothing but the
  configuration;
* **exchange** — `ask` sends the request, `settle` deals with the reply; only a token that could be
  decoded is kept, and every failure leaves the kept token as it was;
* **look-up** — `token` answers the kept token while it is valid and exchanges otherwise;
* **dropping** — `invalidate` forgets the kept token.
-/

namespace Outbound

open Outbound.Encoding Outbound.Text Outbound.Time

/-- **Issuers**: a valid configuration, the endpoint, and the client credentials, if there are
any. -/
structure Issuer where
  config : IamConfig
  endpoint : Url
  client : Option HeaderValue
  deriving DecidableEq

namespace Issuer

/-- **The issuer of a configuration.** -/
def build (config : IamConfig) : Except ConfigFailure Issuer := do
  config.validate
  let endpoint ← config.endpoint
  let client ← match config.clientId, config.clientSecret with
    | some id, some secret => some <$> basicValue id secret.exposed
    | _, _ => pure none
  return ⟨config, endpoint, client⟩

variable (i : Issuer)

/-! ## The request -/

/-- The parameters of a token request, in order. -/
def parameters : List (String × String) :=
  [("grant_type", "urn:ibm:params:oauth:grant-type:apikey"),
    ("apikey", i.config.apiKey.exposed),
    ("response_type", "cloud_iam")] ++
  i.config.scope.toList.map fun scope => ("scope", scope)

/-- **The token request.** -/
def request : Request :=
  let r := Request.new "POST" i.endpoint
    |>.withHeader .contentType (.ofText "application/x-www-form-urlencoded")
    |>.withHeader .accept (.ofText "application/json")
    |>.withBody (.bytes (Utf8.bytes (Form.encode i.parameters)))
  match i.client with
  | some v => r.authorize v
  | none => r

/-! ## The reply -/

/-- The number of characters that are shown of an unsuccessful answer. -/
def previewLimit : Nat := 256

/-- **The token in a response** that arrives at an instant. -/
def tokenOf (response : Response) (now : Instant) : Except Failure AccessToken :=
  let status := response.status.code
  if response.status.isSuccess then
    match TokenAnswer.token response.body with
    | .ok text => (AccessToken.decode text).mapError .token
    | .error reason => .error (.endpoint (.unreadable reason status))
  else
    let preview := String.ofList ((Utf8.decodeLossy response.body).take previewLimit)
    .error (.endpoint (.refused preview status (response.headers.retryAfter? now)))

/-- The token in an outcome that arrives at an instant. -/
def tokenOfOutcome (outcome : Except TransportFailure Response) (now : Instant) :
    Except Failure AccessToken :=
  match outcome with
  | .ok response => tokenOf response now
  | .error cause => .error (.transport cause)

/-! ## Actions -/

/-- **Asking for a token.** Answers the reply that is under way. -/
def ask (t : Transport) : Act Reply := do
  Act.record (.opened .tokenRequest "iam_token")
  Act.record (.counted .tokenRequest .attempt)
  t.dispatch .token i.request

/-- **Dealing with the reply.** A token is kept, a failure changes nothing. -/
def settle (outcome : Except TransportFailure Response) : Act (Except Failure AccessToken) := do
  let result := tokenOfOutcome outcome (← Act.now)
  Act.record (.counted .tokenRequest (.ofResult result))
  match result with
  | .ok token => Act.keep (some token)
  | .error _ => pure ()
  return result

/-- **An exchange**, from the request to the kept token. -/
def exchange (t : Transport) : Act (Except Failure AccessToken) := do
  let reply ← i.ask t
  Act.pass reply.delay
  settle reply.outcome

/-- **A valid token**, kept or new. -/
def token (t : Transport) : Act (Except Failure AccessToken) := do
  match (← get).validToken? with
  | some token => return .ok token
  | none => i.exchange t

/-- **Forgetting the kept token.** -/
def invalidate : Act Unit := Act.keep none

/-- An issuer as diagnostics show it, given whether a token is kept. -/
def text (cached : Bool) : String :=
  s!"IamAuthenticator \x7b token_endpoint: {quote i.endpoint.text}, " ++
    s!"client_id: {quoteOption i.config.clientId}, scope: {quoteOption i.config.scope}, " ++
    s!"cached: {cached} \x7d"

end Issuer

end Outbound
