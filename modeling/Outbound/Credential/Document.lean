import Outbound.Credential.Config

/-!
# Configurations as JSON documents

A configuration is written as an object whose member `auth_type` names its kind, followed by the
parts of that kind. Reading is more generous than writing:

* **order** — members stand in any order, and those of other names are passed over;
* **arrays** — the kind and the parts may also stand in an array, in their order and complete;
* **optional parts** — may be missing from an object, or `null`.

The whole document is read before its parts are looked at, except for the kind, which is read where
it stands. A document that was read need not be valid.
-/

namespace Outbound

open Outbound.Json Outbound.Text

/-- The member that names the kind. -/
def kindMember : String := "auth_type"

/-! ## Writing -/

/-- The document of an optional string. -/
def optionalDocument : Option String → Value
  | none => .null
  | some s => .string s

/-- The parts of a configuration, in order. -/
def AuthConfig.parts : AuthConfig → List (String × Value)
  | .basic c => [("username", .string c.username), ("password", c.password.document)]
  | .bearerToken c => [("token", c.token.document)]
  | .iam c =>
    [("apikey", c.apiKey.document), ("url", .string c.url.text),
      ("client_id", optionalDocument c.clientId),
      ("client_secret", optionalDocument (c.clientSecret.map (·.exposed))),
      ("scope", optionalDocument c.scope)]
  | .noAuth => []

/-- **The document of a configuration.** -/
def AuthConfig.document (c : AuthConfig) : Value :=
  .object ((kindMember, .string c.kind.label) :: c.parts)

/-! ## Reading parts -/

/-- What is read may fail. -/
abbrev Reading := Except ReadError

/-- A string. -/
def readString (expected : String) : Value → Reading String
  | .string s => .ok s
  | v => .error (.wrongKind v.describe expected)

/-- A secret. -/
def readSecret (v : Value) : Reading Secret := return ⟨← readString "a string" v⟩

/-- A URL. Its fault is reported with the text in quotes. -/
def readUrl (v : Value) : Reading Url := do
  let s ← readString "a string representing an URL" v
  match Url.parse s with
  | .ok url => .ok url
  | .error reason => .error (.unfit s!"{reason.message}: {quote s}" [])

/-- A value or `null`. -/
def readOptional {α : Type} (read : Value → Reading α) : Value → Reading (Option α)
  | .null => .ok none
  | v => some <$> read v

/-- Fills an empty slot. -/
def fill {α : Type} (name : String) (slot : Option α) (read : Value → Reading α) (v : Value) :
    Reading (Option α) :=
  if slot.isSome then .error (.duplicate name)
  else some <$> (read v).mapError (.within name)

/-- The content of a slot that must be filled. -/
def need {α : Type} (name : String) : Option α → Reading α
  | some a => .ok a
  | none => .error (.missing name)

/-- The parts of a configuration that have been read so far. -/
structure Draft where
  username : Option String := none
  password : Option Secret := none
  token : Option Secret := none
  apiKey : Option Secret := none
  url : Option Url := none
  clientId : Option (Option String) := none
  clientSecret : Option (Option Secret) := none
  scope : Option (Option String) := none

namespace Draft

/-- Takes up a member of a basic configuration. -/
def takeBasic (d : Draft) (name : String) (v : Value) : Reading Draft := do
  match name with
  | "username" => return { d with username := ← fill name d.username (readString "a string") v }
  | "password" => return { d with password := ← fill name d.password readSecret v }
  | _ => return d

/-- Takes up a member of a bearer configuration. -/
def takeBearer (d : Draft) (name : String) (v : Value) : Reading Draft := do
  match name with
  | "token" => return { d with token := ← fill name d.token readSecret v }
  | _ => return d

/-- Takes up a member of an IAM configuration. -/
def takeIam (d : Draft) (name : String) (v : Value) : Reading Draft := do
  match name with
  | "apikey" => return { d with apiKey := ← fill name d.apiKey readSecret v }
  | "url" => return { d with url := ← fill name d.url readUrl v }
  | "client_id" =>
    return { d with clientId := ← fill name d.clientId (readOptional (readString "a string")) v }
  | "client_secret" =>
    return { d with clientSecret := ← fill name d.clientSecret (readOptional readSecret) v }
  | "scope" =>
    return { d with scope := ← fill name d.scope (readOptional (readString "a string")) v }
  | _ => return d

/-- A basic configuration, once all members are taken up. -/
def basic (d : Draft) : Reading AuthConfig := do
  return .basic ⟨← need "username" d.username, ← need "password" d.password⟩

/-- A bearer configuration, once all members are taken up. -/
def bearer (d : Draft) : Reading AuthConfig := do
  return .bearerToken ⟨← need "token" d.token⟩

/-- An IAM configuration, once all members are taken up. -/
def iam (d : Draft) : Reading AuthConfig := do
  return .iam ⟨← need "apikey" d.apiKey, ← need "url" d.url, d.clientId.join,
    d.clientSecret.join, d.scope.join⟩

end Draft

/-- **What a kind is read with**: its parts in order, what the whole is called, how a member is
taken up, and how the draft is finished. -/
structure Shape where
  names : List String
  expected : String
  take : Draft → String → Value → Reading Draft
  finish : Draft → Reading AuthConfig

/-- The shape of each kind. -/
def shapeOf : AuthType → Shape
  | .basic =>
    ⟨["username", "password"], "struct BasicConfig with 2 elements", Draft.takeBasic, Draft.basic⟩
  | .bearerToken =>
    ⟨["token"], "struct BearerTokenConfig with 1 element", Draft.takeBearer, Draft.bearer⟩
  | .iam =>
    ⟨["apikey", "url", "client_id", "client_secret", "scope"], "struct IamConfig with 5 elements",
      Draft.takeIam, Draft.iam⟩
  | .noAuth => ⟨[], "unit", fun d _ _ => .ok d, fun _ => .ok .noAuth⟩

/-- **Parts from the members of an object.** -/
def Shape.ofMembers (s : Shape) (members : List (String × Value)) : Reading AuthConfig := do
  s.finish (← members.foldlM (fun d (name, v) => s.take d name v) {})

/-- A number of elements, in words. -/
def elementCount (n : Nat) : String := if n = 1 then "1 element" else s!"{n} elements"

/-- **Parts from the items of an array.** Each part must be there; what is wrong with an item is
reported before what is missing after it. -/
def Shape.ofItems (s : Shape) (items : List Value) : Reading AuthConfig := do
  let d ← (s.names.zip items).foldlM (fun d (name, v) => s.take d name v) {}
  if items.length < s.names.length then throw (.wrongLength items.length s.expected)
  let c ← s.finish d
  if s.names.length < items.length then
    throw (.wrongLength items.length s!"{elementCount s.names.length} in sequence")
  return c

/-! ## Reading documents -/

/-- The kind with a label, or the fault that there is none. -/
def kindReader : Reader AuthType := do
  let name ← Reader.text "variant identifier"
  match AuthType.all.find? fun kind => kind.label == name with
  | some kind => return kind
  | none => throw (.unknownVariant name (AuthType.all.map AuthType.label))

/-- An answer of the reading of parts, inside a reader. -/
def lift {α : Type} : Reading α → Reader α
  | .ok a => return a
  | .error e => throw e

/-- One member of a document: the kind, or a part. -/
def documentMember (name : String) (state : Option AuthType × List (String × Value)) :
    Reader (Option AuthType × List (String × Value)) := do
  if name = kindMember then
    return (← Reader.field kindMember state.1 kindReader, state.2)
  else do
    Reader.expect ':'
    let v ← Reader.value (Reader.nestingLimit - 1)
    return (state.1, (name, v) :: state.2)

/-- The items of a document that is an array: the kind, then parts. -/
def documentItems : Reader AuthConfig := do
  if (← Reader.peek) = ']' then throw (.missing kindMember)
  let kind ← kindReader
  let items ← if (← Reader.peek) = ']' then do Reader.skip; pure []
    else do
      Reader.expect ','
      if (← Reader.peek) = ']' then throw .malformed
      Reader.items (Reader.value (Reader.nestingLimit - 1))
  lift ((shapeOf kind).ofItems items)

/-- **Reading a document.** -/
def AuthConfig.reader : Reader AuthConfig := do
  let c ← Reader.peek
  if c = '\x7b' then do
    Reader.skip
    let (kind, members) ← Reader.members Reader.string documentMember (none, [])
    let kind ← Reader.required kindMember kind
    lift ((shapeOf kind).ofMembers members.reverse)
  else if c = '[' then do
    Reader.skip
    documentItems
  else Reader.mismatch "internally tagged enum AuthenticatorConfig"

/-- **The configuration of a JSON text.** -/
def AuthConfig.ofJson (s : String) : Except ReadError AuthConfig :=
  Reader.run AuthConfig.reader (Utf8.bytes s)

end Outbound
