import Outbound.Json.Typed

/-!
# Answers of a token endpoint

A successful answer is a JSON object with the new token and more about it. Only the token is used,
but the other known fields have to be of their kinds.

* **fields** — token and token type must be there; the rest may be missing or `null`;
* **other fields** — are read as values and passed over, however often they stand;
* **order of faults** — a field that stands twice or does not fit is reported where it stands, a
  missing one after the closing brace;
* **rest** — what follows the object is not looked at.
-/

namespace Outbound

open Outbound.Json

/-- **What an answer says**, as far as it has been read. -/
structure TokenAnswer where
  accessToken : Option String := none
  tokenType : Option String := none
  expiresIn : Option (Option Nat) := none
  refreshToken : Option (Option String) := none
  scope : Option (Option String) := none
  deriving DecidableEq, Repr

namespace TokenAnswer

/-- A string. -/
def stringReader : Reader String := Reader.text "a string"

/-- A number of seconds. -/
def secondsReader : Reader Nat := Reader.natural (1 <<< 64) "u64"

/-- Takes up one member. -/
def member (name : String) (a : TokenAnswer) : Reader TokenAnswer := do
  match name with
  | "access_token" =>
    return { a with accessToken := ← Reader.field name a.accessToken stringReader }
  | "token_type" => return { a with tokenType := ← Reader.field name a.tokenType stringReader }
  | "expires_in" =>
    return { a with expiresIn := ← Reader.field name a.expiresIn (Reader.nullable secondsReader) }
  | "refresh_token" =>
    return { a with
      refreshToken := ← Reader.field name a.refreshToken (Reader.nullable stringReader) }
  | "scope" =>
    return { a with scope := ← Reader.field name a.scope (Reader.nullable stringReader) }
  | _ => do
    Reader.expect ':'
    discard (Reader.value (Reader.nestingLimit - 1))
    return a

/-- The token of an answer, once all members are taken up. -/
def tokenReader : Reader String := do
  if (← Reader.peek) = '\x7b' then do
    Reader.skip
    let a ← Reader.members Reader.string member {}
    let token ← Reader.required "access_token" a.accessToken
    discard (Reader.required "token_type" a.tokenType)
    return token
  else Reader.mismatch "struct StandardTokenResponse"

/-- **The token in an answer.** -/
def token (body : List UInt8) : Except ReadError String := tokenReader.run' body

end TokenAnswer

end Outbound
