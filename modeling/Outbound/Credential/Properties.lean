import Outbound.Credential.Config

/-!
# Configurations from properties

A flat list of named values, as an environment or a credentials file holds it.

* **look-up** — the last value of a name counts, and an empty value counts for nothing;
* **kind** — `AUTH_TYPE` selects the kind, which is IAM if it is not set;
* **parts** — only the properties of the selected kind are looked at.
-/

namespace Outbound

/-- Named values, in order. -/
abbrev Properties := List (String × String)

/-- **Look-up.** The last value of a name that is not empty. -/
def Properties.get? (ps : Properties) (name : String) : Option String :=
  ((ps.filter fun (key, value) => key == name && !value.isEmpty).getLast?).map (·.2)

/-- The kind that the properties select. -/
def Properties.kind (ps : Properties) : Except ConfigFailure AuthType :=
  match ps.get? "AUTH_TYPE" with
  | some name => AuthType.parse name
  | none => .ok .iam

/-- **The configuration that properties describe**, valid if there is one. -/
def AuthConfig.ofProperties (ps : Properties) : Except ConfigFailure AuthConfig := do
  let secret (name : String) : Option Secret := (ps.get? name).map Secret.mk
  match ← ps.kind with
  | .basic => return .basic (← BasicConfig.build (ps.get? "USERNAME") (secret "PASSWORD"))
  | .bearerToken =>
    return .bearerToken (← BearerConfig.build ((secret "BEARER_TOKEN").getD ⟨""⟩))
  | .iam =>
    return .iam (← IamConfig.build (secret "APIKEY") (ps.get? "URL") (ps.get? "CLIENT_ID")
      (secret "CLIENT_SECRET") (ps.get? "SCOPE"))
  | .noAuth => return .noAuth

end Outbound
