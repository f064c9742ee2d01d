import Outbound.Json.Typed

/-!
# Secrets

A credential that does not show itself: everything printed of it is the same for all secrets.
-/

namespace Outbound

open Outbound.Json

/-- **Secrets.** What `exposed` holds must not be logged. -/
structure Secret where
  exposed : String
  deriving DecidableEq

namespace Secret

/-- A secret as diagnostics show it. -/
def redacted (_ : Secret) : String := "Secret(<redacted>)"

/-- A secret as text. -/
def text (_ : Secret) : String := "<redacted>"

/-- The document of a secret, which does hold it. -/
def document (s : Secret) : Value := .string s.exposed

/-- Reading a document. -/
def reader : Reader Secret := return ⟨← Reader.text "a string"⟩

end Secret

end Outbound
