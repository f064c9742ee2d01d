import Outbound.Token.Access
import Outbound.Trace.Event

/-!
# Sessions

What one authenticator and one transport have come to: the time, the token that is kept, and all
that has happened.

* **actions** — an action changes the session and answers a value; failures are ordinary answers,
  so that what was done before one stays done;
* **log** — the only record of the past: how many requests were sent, and how often credentials
  were asked for, is counted in it;
* **view** — `Session.events` lists the log from the first event to the last.
-/

namespace Outbound

open Outbound.Time

/-- **Sessions.** The log has the latest event in front. -/
structure Session where
  now : Instant
  kept : Option AccessToken
  log : List Event
  deriving DecidableEq

/-- **Actions** on a session. -/
abbrev Act := StateM Session

namespace Session

/-- A session in which nothing has happened. -/
def start (now : Instant) : Session := ⟨now, none, []⟩

/-- **The view.** All events, the first one in front. -/
def events (s : Session) : List Event := s.log.reverse

/-- The number of requests that the transport has received. -/
def sends (s : Session) : Nat := s.log.countP Event.isSend

/-- When the last request was sent. -/
def lastSend (s : Session) : Option Instant := s.log.findSome? Event.sendTime?

/-- The position that a session has come to. -/
def position (s : Session) : Position := ⟨s.now, s.sends, s.lastSend⟩

/-- The number of times that credentials were asked for. -/
def authentications (s : Session) : Nat := s.log.countP Event.isAuthenticating

/-- The token that is kept, if it is valid now. -/
def validToken? (s : Session) : Option AccessToken := s.kept.filter (·.isValidAt s.now)

/-- The session with one more event. -/
def record (s : Session) (e : Event) : Session := { s with log := e :: s.log }

/-- The session some time later. -/
def later (s : Session) (d : Duration) : Session := { s with now := Instant.after s.now d }

/-- The session with a token to keep, or with none. -/
def keep (s : Session) (token : Option AccessToken) : Session := { s with kept := token }

variable (s : Session) (e : Event)

@[simp] theorem events_record : (s.record e).events = s.events ++ [e] := by
  simp [events, record]

@[simp] theorem now_record : (s.record e).now = s.now := rfl

@[simp] theorem kept_record : (s.record e).kept = s.kept := rfl

@[simp] theorem validToken?_record : (s.record e).validToken? = s.validToken? := rfl

@[simp] theorem events_later (d : Duration) : (s.later d).events = s.events := rfl

@[simp] theorem kept_later (d : Duration) : (s.later d).kept = s.kept := rfl

@[simp] theorem events_keep (t : Option AccessToken) : (s.keep t).events = s.events := rfl

@[simp] theorem now_keep (t : Option AccessToken) : (s.keep t).now = s.now := rfl

end Session

namespace Act

/-- Records an event. -/
def record (e : Event) : Act Unit := modify (·.record e)

/-- Lets time pass. -/
def pass (d : Duration) : Act Unit := modify (·.later d)

/-- Keeps a token, or none. -/
def keep (token : Option AccessToken) : Act Unit := modify (·.keep token)

/-- The time. -/
def now : Act Instant := return (← get).now

end Act

end Outbound
