import Outbound.Failure
import Outbound.Text.Blank

/-!
# Kinds of authentication

The four ways in which a call can be authenticated, with the names they go by.

* **label** — the stable name, which is also how people write it, in any case;
* **identifier** — the name under which diagnostics and documents list the kind;
* **document** — a kind on its own is a JSON string with the identifier, or an object that maps the
  identifier to `null`.
-/

namespace Outbound

open Outbound.Text Outbound.Json

/-- **Kinds of authentication.** -/
inductive AuthType
  | basic
  | bearerToken
  | iam
  | noAuth
  deriving DecidableEq, Repr

namespace AuthType

/-- All kinds. -/
def all : List AuthType := [.basic, .bearerToken, .iam, .noAuth]

/-- The stable name. -/
def label : AuthType → String
  | .basic => "basic"
  | .bearerToken => "bearerToken"
  | .iam => "iam"
  | .noAuth => "noauth"

/-- The name in diagnostics and documents. -/
def identifier : AuthType → String
  | .basic => "Basic"
  | .bearerToken => "BearerToken"
  | .iam => "Iam"
  | .noAuth => "NoAuth"

/-- **Reading a label** in any case, with blanks around it. -/
def parse (s : String) : Except ConfigFailure AuthType :=
  let name := String.ofList (trim s.toList)
  match all.find? fun kind => sameIgnoringCase kind.label name with
  | some kind => .ok kind
  | none => .error (.unsupportedAuthType name)

/-- The kind with an identifier, or the fault that there is none. -/
def ofIdentifier (name : String) : Reader AuthType :=
  match all.find? fun kind => kind.identifier == name with
  | some kind => return kind
  | none => throw (.unknownVariant name (all.map identifier))

/-- The document of a kind. -/
def document (kind : AuthType) : Value := .string kind.identifier

/-- **Reading a document.** -/
def reader : Reader AuthType := do
  match ← Reader.peek with
  | '"' => do
    Reader.skip
    ofIdentifier (← Reader.string)
  | '\x7b' => do
    Reader.skip
    if (← Reader.peek) ≠ '"' then throw .malformed
    Reader.skip
    let kind ← ofIdentifier (← Reader.string)
    Reader.expect ':'
    if (← Reader.peek) = 'n' then Reader.word "null".toList else Reader.mismatch "unit"
    Reader.expect '\x7d'
    return kind
  | _ => throw .malformed

end AuthType

end Outbound
