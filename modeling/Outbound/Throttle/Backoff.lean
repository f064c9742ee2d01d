import Outbound.Message.Header
import Outbound.Text.Integer
import Outbound.Time.MailDate

/-!
# How long to wait

A throttled answer says in its headers when to come back. Two readings of these are made:

* **backoff** — the wait before a resend. `RateLimit-Reset` goes before `Retry-After`, each in whole
  seconds; a header that is there but not usable gives the default, and is reported;
* **hint** — what a refusing token endpoint says in `Retry-After`, in seconds or as a date.
-/

namespace Outbound

open Outbound.Time Outbound.Text

/-- **A wait**, with the header that was passed over for the default, if there was one. -/
structure Backoff where
  interval : Duration
  ignored : Option (HeaderName × HeaderValue)
  deriving DecidableEq, Repr

/-- The header that decides about the wait, with its first value. -/
def Headers.backoffHeader? (h : Headers) : Option (HeaderName × HeaderValue) :=
  match h.get? .rateLimitReset with
  | some v => some (.rateLimitReset, v)
  | none => (h.get? .retryAfter).map ((.retryAfter, ·))

/-- A positive number of seconds. -/
def HeaderValue.positiveSeconds? (v : HeaderValue) : Option Nat :=
  match v.trimmed?.bind int64? with
  | some n => if 0 < n then some n.toNat else none
  | none => none

/-- The wait of a number of seconds: its milliseconds, which do not exceed 64 bits. -/
def secondsWait (n : Nat) : Duration := .ofMillis (min (n * 1000) (1 <<< 64 - 1))

/-- **The wait before a resend.** -/
def Headers.backoff (h : Headers) (default : Duration) : Backoff :=
  match h.backoffHeader? with
  | none => ⟨default, none⟩
  | some (name, v) =>
    match v.positiveSeconds? with
    | some n => ⟨secondsWait n, none⟩
    | none => ⟨default, some (name, v)⟩

/-- **The hint of a refusing endpoint**, seen from an instant. A date that has passed is none. -/
def Headers.retryAfter? (h : Headers) (now : Instant) : Option Duration := do
  let text ← h.trimmed? .retryAfter
  match nat64? text with
  | some n => some (.ofSeconds n)
  | none =>
    let t ← MailDate.instant? text
    if now < t then some ⟨(t - now).toNat⟩ else none

end Outbound
