import Outbound.Json.Typed
import Outbound.Time.Duration
import Outbound.Url.Host

/-!
# Failures

Everything that can go wrong with a call, by its cause.

* **configuration** — raised when an authenticator is built or its token replaced; by a call only if
  a token that was accepted then, or brought since, cannot stand in a header;
* **tokens** — a token whose claims do not yield a deadline;
* **token endpoint** — an answer that holds no token; the caller may try again;
* **transport, service, cancellation** — no answer, an unsuccessful answer, a call given up.

`Failure.message` is the text of a failure and `Failure.status?` the status it carries.
-/

namespace Outbound

open Outbound.Time

/-- **Configuration failures.** -/
inductive ConfigFailure
  | unsupportedAuthType (name : String)
  | missingProperty (authType property : String)
  | badCredentialFormat (property : String)
  | incompleteClientCredentials
  | invalidUrl (url : String) (reason : Url.UrlError)
  | invalidHeaderValue
  | clientNotBuilt (reason : String)
  deriving DecidableEq, Repr

/-- The segments of a token that are read. -/
inductive Segment
  | header
  | payload
  deriving DecidableEq, Repr

/-- The name of a segment. -/
def Segment.name : Segment → String
  | .header => "header"
  | .payload => "payload"

/-- **Token failures.** The instants of a lifetime are in seconds. -/
inductive TokenFailure
  | segmentCount (found : Nat)
  | notBase64 (segment : Segment)
  | notObject (segment : Segment) (reason : Json.ReadError)
  | unexpectedClaimType (claim : String)
  | missingClaim (claim : String)
  | invalidLifetime (issuedAt expiresAt : Int)
  deriving DecidableEq, Repr

/-- **Failures of the token endpoint**: an unsuccessful answer, or one that holds no token. -/
inductive EndpointFailure
  | refused (preview : String) (status : Option Nat) (retryAfter : Option Duration)
  | unreadable (reason : Json.ReadError) (status : Option Nat)
  deriving DecidableEq, Repr

/-- **Failures of the transport.** -/
inductive TransportFailure
  | network (reason : String)
  | io (reason : String)
  deriving DecidableEq, Repr

/-- **An unsuccessful answer.** -/
structure ServiceFailure where
  status : Nat
  reason : String
  body : List UInt8
  deriving DecidableEq, Repr

/-- Whether the service turned the call away because of its rate. -/
def ServiceFailure.isTooManyRequests (f : ServiceFailure) : Bool := f.status == 429

/-- **Failures of a call.** -/
inductive Failure
  | config (cause : ConfigFailure)
  | token (cause : TokenFailure)
  | endpoint (cause : EndpointFailure)
  | transport (cause : TransportFailure)
  | service (cause : ServiceFailure)
  | cancelled
  deriving DecidableEq, Repr

/-! ## Texts -/

def ConfigFailure.message : ConfigFailure → String
  | .unsupportedAuthType name => s!"Authentication type `{name}` is not supported."
  | .missingProperty authType property =>
    s!"The {authType} authenticator requires the `{property}` property."
  | .badCredentialFormat property =>
    s!"The `{property}` property must not start or end with '\x7b', '\x7d' or '\"'."
  | .incompleteClientCredentials => "Client id and client secret must be supplied together."
  | .invalidUrl url _ => s!"URL `{url}` is invalid."
  | .invalidHeaderValue => "Header value is invalid."
  | .clientNotBuilt _ => "HTTP client could not be constructed."

def TokenFailure.message : TokenFailure → String
  | .segmentCount found => s!"Token must contain three dot-separated segments, found {found}."
  | .notBase64 segment => s!"Token {segment.name} segment is not valid base64url."
  | .notObject segment _ => s!"Token {segment.name} segment is not a JSON object."
  | .unexpectedClaimType claim => s!"Claim `{claim}` has an unexpected value type."
  | .missingClaim claim => s!"Token is missing the `{claim}` claim."
  | .invalidLifetime issuedAt expiresAt =>
    s!"Token lifetime is invalid: iat={issuedAt}, exp={expiresAt}."

def EndpointFailure.message : EndpointFailure → String
  | .refused preview _ _ => s!"Token endpoint returned an unexpected response: {preview}."
  | .unreadable .. => "Token endpoint returned malformed JSON."

def TransportFailure.message : TransportFailure → String
  | .network _ => "Network error occurred while sending the request."
  | .io _ => "I/O error occurred while sending the request."

def ServiceFailure.message (f : ServiceFailure) : String :=
  s!"Service responded with HTTP {f.status}: {f.reason}."

/-- **The text of a failure.** -/
def Failure.message : Failure → String
  | .config cause => cause.message
  | .token cause => cause.message
  | .endpoint cause => cause.message
  | .transport cause => cause.message
  | .service cause => cause.message
  | .cancelled => "Request was cancelled while waiting to retry."

/-- **The status that a failure carries.** -/
def Failure.status? : Failure → Option Nat
  | .service cause => some cause.status
  | .endpoint (.refused _ status _) => status
  | .endpoint (.unreadable _ status) => status
  | _ => none

end Outbound
