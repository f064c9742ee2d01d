import Outbound.Encoding.Base64
import Outbound.Failure
import Outbound.Text.Integer

/-!
# Claims

A compact token has three segments between dots: header, payload and signature. The first two are
base 64 of JSON objects, whose members are the claims. Nothing is verified; the claims are read to
learn when the token was issued and when it ends.

* **decoding** — the segments are counted first, then the header is read, then the payload;
* **header** — every claim as text, a string as it is and any other value as compact JSON;
* **payload** — claims as values, with accessors for numbers, which may be written as strings, and
  for text.
-/

namespace Outbound

open Outbound.Encoding Outbound.Json Outbound.Text

/-- **Claims**, each list sorted by name. -/
structure Claims where
  header : List (String × String)
  payload : List (String × Value)

namespace Claims

/-- A JSON object, its members sorted, up to the end of the text. -/
def objectReader : Reader (List (String × Value)) := do
  if (← Reader.peek) = '\x7b' then
    match ← Reader.value Reader.nestingLimit with
    | .object members => return sortMembers (sortedEntries members)
    | _ => throw .malformed
  else Reader.mismatch "a map"

/-- The text of a claim: a string as it is, anything else as compact JSON. -/
def textOf : Value → String
  | .string s => s
  | v => v.text

/-- **The object of a segment.** Padding does not count. -/
def decodeSegment (segment : Segment) (cs : List Char) :
    Except TokenFailure (List (String × Value)) :=
  match Base64.decode .urlSafe (dropEndWhile (· == '=') cs) with
  | none => .error (.notBase64 segment)
  | some bytes =>
    match Reader.run objectReader bytes with
    | .ok members => .ok members
    | .error reason => .error (.notObject segment reason)

/-- **Decoding.** The signature is not looked at. -/
def decode (token : String) : Except TokenFailure Claims :=
  let segments := (trim token.toList).splitOn '.'
  match segments with
  | [header, payload, _] => do
    let header ← decodeSegment .header header
    let payload ← decodeSegment .payload payload
    return ⟨header.map fun (name, v) => (name, textOf v), payload⟩
  | _ => .error (.segmentCount segments.length)

variable (c : Claims)

/-- **A number.** Absent and `null` are the same; a string counts if it is a whole number; every
other value is of the wrong type. -/
def numeric (name : String) : Except TokenFailure (Option Int) :=
  match get? name c.payload with
  | none | some .null => .ok none
  | some (.number (.whole n)) =>
    if FitsInt64 n then .ok (some n) else .error (.unexpectedClaimType name)
  | some (.string s) =>
    match int64? (trim s.toList) with
    | some n => .ok (some n)
    | none => .error (.unexpectedClaimType name)
  | some _ => .error (.unexpectedClaimType name)

/-- **Any claim as text.** Absent and `null` are the same. -/
def text (name : String) : Option String :=
  match get? name c.payload with
  | none | some .null => none
  | some v => some (textOf v)

/-- When the token was issued, in seconds since the epoch. -/
def issuedAt : Except TokenFailure (Option Int) := c.numeric "iat"

/-- When the token ends, in seconds since the epoch. -/
def expiresAt : Except TokenFailure (Option Int) := c.numeric "exp"

/-- Whom the token is about. -/
def subject : Option String := c.text "sub"

/-- Who issued the token. -/
def issuer : Option String := c.text "iss"

/-- Whom the token is meant for. -/
def audience : Option String := c.text "aud"

/-- The identifier of the user. -/
def userId : Option String := c.text "uid"

/-- The name of the user. -/
def username : Option String := c.text "username"

/-- The role of the user. -/
def role : Option String := c.text "role"

end Claims

end Outbound
