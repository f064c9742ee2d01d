import Outbound.Credential.Kind
import Outbound.Session.Basic

/-!
# Authenticators

An authenticator puts credentials on requests. It may have to fetch them first, so that
authenticating is an action which can fail; it answers whether it did, and the request as it is
afterwards.

* **calls** — `Authenticator.call` is what a pipeline uses: it also records that credentials were
  asked for;
* **rehearsal** — `Authenticator.numbered` writes the number of the call into the request, so that
  one can tell the calls of a session apart.
-/

namespace Outbound

/-- **Authenticators**, of a kind. -/
structure Authenticator where
  kind : AuthType
  authenticate : Request → Act (Except Failure Unit × Request)

namespace Authenticator

/-- **Asking for credentials.** -/
def call (a : Authenticator) (r : Request) : Act (Except Failure Unit × Request) := do
  Act.record (.authenticating (← Act.now) r.budget)
  a.authenticate r

/-- Credentials that number the calls; one call may be made to fail. -/
def numbered (failing : Option Nat) : Authenticator where
  kind := .bearerToken
  authenticate r := do
    let n := (← get).authentications
    if failing = some n then return (.error (.transport (.network "auth down")), r)
    else return (.ok (), r.withHeader .authorization (.ofText s!"Bearer call-{n}"))

end Authenticator

end Outbound
