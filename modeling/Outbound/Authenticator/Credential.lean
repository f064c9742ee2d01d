import Outbound.Authenticator.Basic
import Outbound.Credential.Properties
import Outbound.Token.Issuer

/-!
# Credentials

The authenticators that configurations describe.

* **building** — a configuration is validated, and then the parts that its kind needs are made from
  it; each kind can also be built on its own;
* **header** — what a credential writes does not depend on the request that it is written to;
* **rotation** — the token that the caller looks after can be replaced; one that is refused leaves
  the old one in place.
-/

namespace Outbound

/-- **Credentials**: a header value, a token of the caller, an issuer of tokens, or nothing. -/
inductive Credential
  | basic (value : HeaderValue)
  | bearer (token : AccessToken)
  | iam (issuer : Issuer)
  | noAuth
  deriving DecidableEq

/-! ## Building -/

/-- The credential of a user name and a password. -/
def BasicConfig.credential (c : BasicConfig) : Except ConfigFailure Credential := do
  c.validate
  return .basic (← basicValue c.username c.password.exposed)

/-- The credential of a token that the caller looks after. -/
def BearerConfig.credential (c : BearerConfig) : Except ConfigFailure Credential := do
  c.validate
  return .bearer (.supplied c.token.exposed)

/-- The credential of an API key. -/
def IamConfig.credential (c : IamConfig) : Except ConfigFailure Credential :=
  .iam <$> Issuer.build c

namespace AuthConfig

/-- **The credential of a configuration**, built as its kind is built on its own. -/
def ownCredential : AuthConfig → Except ConfigFailure Credential
  | .basic c => c.credential
  | .bearerToken c => c.credential
  | .iam c => c.credential
  | .noAuth => .ok .noAuth

/-- **The credential of any configuration**, which is validated first. -/
def credential (c : AuthConfig) : Except ConfigFailure Credential := do
  c.validate
  c.ownCredential

end AuthConfig

/-- **The credential that properties describe.** -/
def Properties.credential (ps : Properties) : Except ConfigFailure Credential := do
  (← AuthConfig.ofProperties ps).credential

/-- **Rotating a token.** Answers whether the new one is accepted, and the token from now on. -/
def AccessToken.rotate (current : AccessToken) (text : String) :
    Except ConfigFailure Unit × AccessToken :=
  match BearerConfig.build ⟨text⟩ with
  | .ok c => (.ok (), .supplied c.token.exposed)
  | .error cause => (.error cause, current)

namespace Credential

/-- The kind of a credential. -/
def kind : Credential → AuthType
  | .basic _ => .basic
  | .bearer _ => .bearerToken
  | .iam _ => .iam
  | .noAuth => .noAuth

/-- **What a credential writes**, if it writes anything. -/
def header (t : Transport) : Credential → Act (Except Failure (Option HeaderValue))
  | .basic value => return .ok (some value)
  | .bearer token => return (some <$> bearerValue token).mapError .config
  | .iam issuer => do
    match ← issuer.token t with
    | .ok token => return (some <$> bearerValue token).mapError .config
    | .error failure => return .error failure
  | .noAuth => return .ok none

/-- **Authenticating.** A failure leaves the request as it was. -/
def authenticate (t : Transport) (c : Credential) (r : Request) :
    Act (Except Failure Unit × Request) := do
  match ← c.header t with
  | .ok (some value) => return (.ok (), r.authorize value)
  | .ok none => return (.ok (), r)
  | .error failure => return (.error failure, r)

/-- **The authenticator of a credential.** Tokens are requested over the transport. -/
def authenticator (c : Credential) (t : Transport) : Authenticator := ⟨c.kind, c.authenticate t⟩

/-- A credential as diagnostics show it, given whether a token is kept. -/
def text (cached : Bool) : Credential → String
  | .basic _ => "BasicAuthenticator(..)"
  | .bearer token =>
    "BearerTokenAuthenticator \x7b token: RwLock \x7b data: " ++ token.redacted ++ " \x7d \x7d"
  | .iam issuer => issuer.text cached
  | .noAuth => "NoAuthAuthenticator"

end Credential

end Outbound
