import Outbound.Json.Reader
import Outbound.Text.Quoted

/-!
# Reading values of an expected kind

Where the kind of a value is known beforehand it is read at once, and a value of another kind is
reported by what it is and what was expected.

* **mismatch** — `mismatch` reads a wrong value as far as it takes to describe it, so that a fault
  inside it is reported first;
* **records** — a field may stand at most once, and a field that is missing is reported after all
  that are there;
* **skipping** — `skipValue` passes over a value of any depth without looking at what its strings
  and numbers mean.
-/

namespace Outbound.Json

open Outbound.Number Outbound.Text

/-! ## Messages -/

/-- What a number is called in a message. -/
def Number.describe : Number → String
  | .whole n => s!"integer `{n}`"
  | .double x => s!"floating point `{String.ofList (renderDouble x)}`"

/-- What a value is called in a message. -/
def Value.describe : Value → String
  | .null => "null"
  | .bool b => s!"boolean `{b}`"
  | .number n => n.describe
  | .string s => "string " ++ quote s
  | .array _ => "sequence"
  | .object _ => "map"

namespace ReadError

/-- A value of another kind than expected. -/
def wrongKind (found expected : String) : ReadError :=
  .unfit s!"invalid type: {found}, expected {expected}" []

/-- A value of the right kind that is out of range. -/
def outOfRange (n : Int) (expected : String) : ReadError :=
  .unfit s!"invalid value: integer `{n}`, expected {expected}" []

/-- A field that stands twice. -/
def duplicate (field : String) : ReadError := .unfit s!"duplicate field `{field}`" []

/-- A field that is not there. -/
def missing (field : String) : ReadError := .unfit s!"missing field `{field}`" []

/-- An array with the wrong number of items. -/
def wrongLength (found : Nat) (expected : String) : ReadError :=
  .unfit s!"invalid length {found}, expected {expected}" []

/-- A list of names as alternatives: two are joined by "or", more are called "one of". -/
def alternatives (names : List String) : String :=
  let quoted := names.map fun name => s!"`{name}`"
  match quoted with
  | [a, b] => s!"{a} or {b}"
  | _ => "one of " ++ ", ".intercalate quoted

/-- A name that is none of the variants. -/
def unknownVariant (found : String) (names : List String) : ReadError :=
  .unfit s!"unknown variant `{found}`, expected {alternatives names}" []

/-- A name that is none of the fields. -/
def unknownField (found : String) (names : List String) : ReadError :=
  .unfit s!"unknown field `{found}`, expected {alternatives names}" []

/-- The path to the value that does not fit: names between points, or one point for the document
itself. -/
def pathText : List String → String
  | [] => "."
  | names => ".".intercalate names

end ReadError

namespace Reader

/-! ## Single values -/

/-- **A value of the wrong kind.** Reads as much of it as its description needs, then fails. -/
def mismatch {α : Type} (expected : String) : Reader α := do
  let c ← peek
  if c = '[' then throw (.wrongKind "sequence" expected)
  else if c = '\x7b' then throw (.wrongKind "map" expected)
  else throw (.wrongKind (← scalar c).describe expected)

/-- A string. -/
def text (expected : String) : Reader String := do
  if (← peek) = '"' then do skip; string else mismatch expected

/-- A natural number below `bound`. -/
def natural (bound : Nat) (expected : String) : Reader Nat := do
  let c ← peek
  if c = '-' ∨ c.isDigit then do
    match ← number with
    | .whole n =>
      if 0 ≤ n ∧ n < bound then return n.toNat else throw (.outOfRange n expected)
    | .double x => throw (.wrongKind (Number.double x).describe expected)
  else mismatch expected

/-- A value or `null`. -/
def nullable {α : Type} (reader : Reader α) : Reader (Option α) := do
  if (← peek) = 'n' then do word "null".toList; return none
  else return some (← reader)

/-- The value of a field, after its colon, into an empty slot. -/
def field {α : Type} (name : String) (slot : Option α) (reader : Reader α) :
    Reader (Option α) := do
  if slot.isSome then throw (.duplicate name)
  expect ':'
  return some (← reader.within name)

/-- The content of a slot, or the fault that the field is missing. -/
def required {α : Type} (name : String) : Option α → Reader α
  | some a => return a
  | none => throw (.missing name)

/-! ## Skipping -/

/-- The rest of a string after its closing quote. Escapes must be written correctly, but need not
stand for a character. -/
def afterString : List UInt8 → Except ReadError (List UInt8)
  | [] => .error .truncated
  | b :: rest =>
    if b = 0x22 then .ok rest
    else if b < 0x20 then .error .malformed
    else if b ≠ 0x5C then afterString rest
    else match rest with
    | [] => .error .truncated
    | e :: rest =>
      if (shortEscape? (ascii e)).isSome then afterString rest
      else if ascii e ≠ 'u' then .error .malformed
      else match rest with
      | p :: q :: r :: s :: rest =>
        if (hexQuad p q r s).isSome then afterString rest else .error .malformed
      | _ => .error .truncated

/-- Passes over a string, after its opening quote. -/
def skipString : Reader Unit := do
  match afterString (← get) with
  | .ok rest => set rest
  | .error e => throw e

/-- Passes over a numeral; one that breaks off is malformed here. -/
def skipNumeral : Reader Unit := do
  match StateT.run numeral (← get) with
  | .ok (_, rest) => set rest
  | .error .truncated => throw .malformed
  | .error e => throw e

/-- Passes over a value that is no container, given its first character. -/
def skipScalar (c : Char) : Reader Unit := do
  if c = '"' then do skip; skipString
  else if c = '-' ∨ c.isDigit then skipNumeral
  else discard (scalar c)

/-- Passes over a value with at most `nesting` containers open at a time. -/
def skipNested : Nat → Reader Unit
  | 0 => throw .malformed
  | nesting + 1 => do
    let c ← peek
    if c = '[' then do skip; discard (items (skipNested nesting))
    else if c = '\x7b' then do
      skip
      members skipString (fun _ _ => do expect ':'; skipNested nesting) ()
    else skipScalar c

/-- **Passing over a value** of any depth: each container that is open took a byte. -/
def skipValue : Reader Unit := do skipNested ((← get).length + 1)

end Reader

end Outbound.Json
