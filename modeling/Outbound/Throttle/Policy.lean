import Outbound.Json.Typed
import Outbound.Time.Duration

/-!
# Retry policies

What a pipeline does about throttled calls: how long it waits when the answer does not say, and how
often it sends again.

* **limits** — `maxRetries` bounds the resends of a call; without it there is no bound;
* **documents** — a policy is written as an object; it may also be read from an array, and so may
  the interval inside it, whose nanoseconds carry over into its seconds.
-/

namespace Outbound

open Outbound.Time Outbound.Json

/-- **Retry policies.** -/
structure RetryPolicy where
  defaultInterval : Duration
  maxRetries : Option Nat
  deriving DecidableEq, Repr

namespace RetryPolicy

/-- A policy without a bound. -/
def every (interval : Duration) : RetryPolicy := ⟨interval, none⟩

/-- The policy that is used if nothing is said: every second, without a bound. -/
def standard : RetryPolicy := every (.ofSeconds 1)

/-- The same policy with a bound. -/
def withMaxRetries (p : RetryPolicy) (n : Nat) : RetryPolicy := { p with maxRetries := some n }

/-- A policy as diagnostics show it. -/
def text (p : RetryPolicy) : String :=
  let retries := match p.maxRetries with
    | none => "None"
    | some n => s!"Some({n})"
  s!"RateLimitConfig \x7b default_interval: {p.defaultInterval.text}, max_retries: {retries} \x7d"

/-! ## Documents -/

/-- A natural number as a value. -/
def natDocument (n : Nat) : Value := .number (.whole n)

/-- **The document of a policy.** -/
def document (p : RetryPolicy) : Value :=
  .object [
    ("default_interval", .object [("secs", natDocument p.defaultInterval.seconds),
      ("nanos", natDocument p.defaultInterval.subsecondNanos)]),
    ("max_retries", match p.maxRetries with
      | none => .null
      | some n => natDocument n)]

/-- The seconds of an interval. -/
def secondsReader : Reader Nat := Reader.natural (1 <<< 64) "u64"

/-- The nanoseconds of an interval. -/
def nanosReader : Reader Nat := Reader.natural (1 <<< 32) "u32"

/-- An interval from its parts. The seconds must fit 64 bits after the carry. -/
def intervalOf (seconds nanos : Nat) : Reader Duration :=
  if seconds + nanos / 1000000000 < 1 <<< 64 then
    return ⟨seconds * 1000000000 + nanos⟩
  else throw (.unfit "overflow deserializing Duration" [])

/-- One member of an interval. -/
def intervalMember (name : String) (state : Option Nat × Option Nat) :
    Reader (Option Nat × Option Nat) := do
  match name with
  | "secs" => return (← Reader.field name state.1 secondsReader, state.2)
  | "nanos" => return (state.1, ← Reader.field name state.2 nanosReader)
  | _ => throw (.unknownField name ["secs", "nanos"])

/-- The next item of an array of known length, or the fault that the array is too short. -/
def nextItem {α : Type} (index : Nat) (expected : String) (item : Reader α) : Reader α := do
  if (← Reader.peek) = ']' then throw (.wrongLength index expected)
  if index ≠ 0 then do
    Reader.expect ','
    if (← Reader.peek) = ']' then throw .malformed
  item

/-- **Reading an interval.** -/
def intervalReader : Reader Duration := do
  let expected := "struct Duration"
  let c ← Reader.peek
  if c = '\x7b' then do
    Reader.skip
    let (seconds, nanos) ← Reader.members Reader.string intervalMember (none, none)
    intervalOf (← Reader.required "secs" seconds) (← Reader.required "nanos" nanos)
  else if c = '[' then do
    Reader.skip
    let seconds ← nextItem 0 expected secondsReader
    let nanos ← nextItem 1 expected nanosReader
    let interval ← intervalOf seconds nanos
    Reader.expect ']'
    return interval
  else Reader.mismatch expected

/-- The bound of a policy. -/
def retriesReader : Reader (Option Nat) := Reader.nullable (Reader.natural (1 <<< 32) "u32")

/-- One member of a policy; those of other names are passed over. -/
def policyMember (name : String) (state : Option Duration × Option (Option Nat)) :
    Reader (Option Duration × Option (Option Nat)) := do
  match name with
  | "default_interval" => return (← Reader.field name state.1 intervalReader, state.2)
  | "max_retries" => return (state.1, ← Reader.field name state.2 retriesReader)
  | _ => do
    Reader.expect ':'
    Reader.skipValue
    return state

/-- **Reading a policy.** -/
def reader : Reader RetryPolicy := do
  let c ← Reader.peek
  if c = '\x7b' then do
    Reader.skip
    let (interval, retries) ← Reader.members Reader.string policyMember (none, none)
    return ⟨← Reader.required "default_interval" interval, retries.join⟩
  else if c = '[' then do
    Reader.skip
    let expected := "struct RateLimitConfig with 2 elements"
    let interval ← nextItem 0 expected intervalReader
    let retries ← nextItem 1 expected retriesReader
    Reader.expect ']'
    return ⟨interval, retries⟩
  else Reader.mismatch "struct RateLimitConfig"

end RetryPolicy

end Outbound
