import Outbound.Credential.Kind
import Outbound.Credential.Secret
import Outbound.Text.Quoted
import Outbound.Url.Parser

/-!
# Configurations

What an authenticator is built from, and when it is valid.

* **credentials** — a user name, a password and an API key must be there and must not begin or end
  with a brace or a double quote, the traces of a value pasted with its delimiters;
* **tokens** — a bearer token must be there;
* **client credentials** — an IAM configuration has both of them, not empty, or neither;
* **endpoint** — the token path is appended to the IAM URL unless the URL ends in it.

Each kind is put together from parts of which some may be absent, and is valid once it is.
-/

namespace Outbound

open Outbound.Text

/-- The delimiters that a credential must not begin or end with. -/
def isStrayDelimiter (c : Char) : Bool := c == '\x7b' || c == '\x7d' || c == '"'

/-- **Whether a credential begins or ends with a stray delimiter.** -/
def hasStrayDelimiter (s : String) : Bool :=
  (s.toList.head?.map isStrayDelimiter).getD false ||
    (s.toList.getLast?.map isStrayDelimiter).getD false

/-- **The rule for credentials.** First that there is one, then its ends. -/
def checkCredential (kind : AuthType) (property value : String) : Except ConfigFailure Unit :=
  if value.isEmpty then .error (.missingProperty kind.label property)
  else if hasStrayDelimiter value then .error (.badCredentialFormat property)
  else .ok ()

/-- A URL from its text, or the failure that names it. -/
def parseUrl (s : String) : Except ConfigFailure Url :=
  match Url.parse s with
  | .ok url => .ok url
  | .error reason => .error (.invalidUrl s reason)

/-! ## Basic authentication -/

/-- **A user name and a password.** -/
structure BasicConfig where
  username : String
  password : Secret
  deriving DecidableEq

namespace BasicConfig

/-- The user name is checked first. -/
def validate (c : BasicConfig) : Except ConfigFailure Unit := do
  checkCredential .basic "username" c.username
  checkCredential .basic "password" c.password.exposed

/-- **A valid configuration from its parts.** An absent part is empty. -/
def build (username : Option String) (password : Option Secret) :
    Except ConfigFailure BasicConfig := do
  let c : BasicConfig := ⟨username.getD "", password.getD ⟨""⟩⟩
  c.validate
  return c

end BasicConfig

/-! ## Bearer tokens -/

/-- **A token that the caller looks after.** -/
structure BearerConfig where
  token : Secret
  deriving DecidableEq

namespace BearerConfig

/-- The token must be there. -/
def validate (c : BearerConfig) : Except ConfigFailure Unit :=
  if c.token.exposed.isEmpty then
    .error (.missingProperty AuthType.bearerToken.label "token")
  else .ok ()

/-- **A valid configuration.** -/
def build (token : Secret) : Except ConfigFailure BearerConfig := do
  let c : BearerConfig := ⟨token⟩
  c.validate
  return c

end BearerConfig

/-! ## IAM -/

/-- **An API key that is exchanged for tokens.** -/
structure IamConfig where
  apiKey : Secret
  url : Url
  clientId : Option String
  clientSecret : Option Secret
  scope : Option String
  deriving DecidableEq

namespace IamConfig

/-- The URL of a configuration that names none. -/
def defaultUrl : String := "https://iam.cloud.ibm.com"

/-- The path of the token endpoint. -/
def tokenPath : String := "/identity/token"

/-- The API key is checked first, then that the client credentials are paired. -/
def validate (c : IamConfig) : Except ConfigFailure Unit := do
  checkCredential .iam "apikey" c.apiKey.exposed
  match c.clientId, c.clientSecret with
  | some id, some secret =>
    if id.isEmpty || secret.exposed.isEmpty then .error .incompleteClientCredentials else .ok ()
  | none, none => .ok ()
  | _, _ => .error .incompleteClientCredentials

/-- The text of the token endpoint: without the slashes at its end, and with the token path. -/
def endpointText (url : Url) : String :=
  let base := dropEndWhile (· == '/') url.text.toList
  if tokenPath.toList.isSuffixOf base then String.ofList base
  else String.ofList (base ++ tokenPath.toList)

/-- **The token endpoint.** -/
def endpoint (c : IamConfig) : Except ConfigFailure Url := parseUrl (endpointText c.url)

/-- **A valid configuration from its parts.** The URL is parsed before anything is checked. -/
def build (apiKey : Option Secret) (url : Option String) (clientId : Option String)
    (clientSecret : Option Secret) (scope : Option String) : Except ConfigFailure IamConfig := do
  let url ← parseUrl (url.getD defaultUrl)
  let c : IamConfig := ⟨apiKey.getD ⟨""⟩, url, clientId, clientSecret, scope⟩
  c.validate
  return c

end IamConfig

/-! ## Any kind -/

/-- **Configurations of every kind.** -/
inductive AuthConfig
  | basic (config : BasicConfig)
  | bearerToken (config : BearerConfig)
  | iam (config : IamConfig)
  | noAuth
  deriving DecidableEq

namespace AuthConfig

/-- The kind of a configuration. -/
def kind : AuthConfig → AuthType
  | .basic _ => .basic
  | .bearerToken _ => .bearerToken
  | .iam _ => .iam
  | .noAuth => .noAuth

/-- **Validity.** -/
def validate : AuthConfig → Except ConfigFailure Unit
  | .basic c => c.validate
  | .bearerToken c => c.validate
  | .iam c => c.validate
  | .noAuth => .ok ()

/-- A configuration as diagnostics show it: secrets redacted. -/
def text : AuthConfig → String
  | .basic c =>
    s!"Basic(BasicConfig \x7b username: {quote c.username}, password: {c.password.redacted} \x7d)"
  | .bearerToken c => s!"BearerToken(BearerTokenConfig \x7b token: {c.token.redacted} \x7d)"
  | .iam c =>
    let secret := c.clientSecret.map Secret.redacted
    s!"Iam(IamConfig \x7b apikey: {c.apiKey.redacted}, url: {c.url.description}, " ++
      s!"client_id: {quoteOption c.clientId}, " ++
      s!"client_secret: {Url.describeOption secret}, " ++
      s!"scope: {quoteOption c.scope} \x7d)"
  | .noAuth => "NoAuth"

end AuthConfig

end Outbound
