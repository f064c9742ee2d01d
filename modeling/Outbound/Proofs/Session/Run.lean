import Outbound.Session.Transport

/-!
# Running actions

What the actions answer and what they do to the session, one equation for each. Later proofs take a
run apart with these and never unfold an action.

* **sequencing** — `Act.run_bind` runs one action from the session that the one before left;
* **effects** — recording, letting time pass, keeping a token;
* **transports** — a request that is sent is recorded at the position it is sent from, and its reply
  takes its time;
* **waits** — a wait that nobody can end lets the interval pass.
-/

namespace Outbound

open Outbound.Time

namespace Act

variable {α β : Type} (s : Session)

@[simp] theorem run_pure (a : α) : (pure a : Act α).run s = (a, s) := rfl

/-- **Sequencing**: the second action starts where the first one ended. -/
@[simp] theorem run_bind (x : Act α) (f : α → Act β) :
    (x >>= f).run s = (f (x.run s).1).run (x.run s).2 := rfl

@[simp] theorem run_map (f : α → β) (x : Act α) :
    (f <$> x).run s = (f (x.run s).1, (x.run s).2) := rfl

@[simp] theorem run_get : (get : Act Session).run s = (s, s) := rfl

@[simp] theorem run_now : Act.now.run s = (s.now, s) := rfl

@[simp] theorem run_record (e : Event) : (Act.record e).run s = ((), s.record e) := rfl

@[simp] theorem run_pass (d : Duration) : (Act.pass d).run s = ((), s.later d) := rfl

@[simp] theorem run_keep (token : Option AccessToken) :
    (Act.keep token).run s = ((), s.keep token) := rfl

/-- **Recording several events**, one after another. -/
@[simp] theorem run_forM_record (es : List Event) :
    (es.forM Act.record).run s = ((), es.foldl Session.record s) := by
  induction es generalizing s with
  | nil => rfl
  | cons e es ih => exact ih (s.record e)

end Act

/-! ## Transports and waits -/

/-- **Dispatching** records the request and answers the reply of its number. -/
@[simp] theorem Transport.run_dispatch (t : Transport) (purpose : Purpose) (r : Request)
    (s : Session) :
    (t.dispatch purpose r).run s = (t s.sends, s.record (.sent purpose s.position r)) := rfl

/-- **Sending** dispatches the request and lets the time of the reply pass. -/
theorem Transport.run_send (t : Transport) (purpose : Purpose) (r : Request) (s : Session) :
    (t.send purpose r).run s =
      ((t s.sends).outcome.mapError .transport,
        (s.record (.sent purpose s.position r)).later (t s.sends).delay) := rfl

/-- **A wait** ends when the caller gives up, or else when the interval is over. -/
theorem run_wait (d : Duration) (cancellation : Option Cancellation) (s : Session) :
    (wait d cancellation).run s =
      match cancellation.bind (·.during? d s.position) with
      | some t => (.error .cancelled, { s with now := t })
      | none => (.ok (), s.later d) := by
  rw [wait, Act.run_bind, Act.run_get]
  rcases cancellation.bind (·.during? d s.position) with _ | t <;> rfl

/-- **An undisturbed wait**: without a cancellation the whole interval passes. -/
theorem run_wait_none (d : Duration) (s : Session) :
    (wait d none).run s = (.ok (), s.later d) := rfl

namespace Session

variable (s : Session)

@[simp] theorem now_later (d : Duration) : (s.later d).now = Instant.after s.now d := rfl

/-- **Sends** are counted in the log. -/
@[simp] theorem sends_record (e : Event) :
    (s.record e).sends = s.sends + if e.isSend then 1 else 0 :=
  List.countP_cons

/-- And so is asking for credentials. -/
@[simp] theorem authentications_record (e : Event) :
    (s.record e).authentications = s.authentications + if e.isAuthenticating then 1 else 0 :=
  List.countP_cons

@[simp] theorem sends_later (d : Duration) : (s.later d).sends = s.sends := rfl

@[simp] theorem sends_keep (token : Option AccessToken) : (s.keep token).sends = s.sends := rfl

/-- Recording events takes no time. -/
@[simp] theorem now_foldl_record (es : List Event) :
    (es.foldl Session.record s).now = s.now := by
  induction es generalizing s with
  | nil => rfl
  | cons e es ih => exact ih (s.record e)

/-- Recording events leaves the kept token alone. -/
@[simp] theorem kept_foldl_record (es : List Event) :
    (es.foldl Session.record s).kept = s.kept := by
  induction es generalizing s with
  | nil => rfl
  | cons e es ih => exact ih (s.record e)

/-- In the log they stand from the last to the first. -/
theorem log_foldl_record (es : List Event) :
    (es.foldl Session.record s).log = es.reverse ++ s.log := by
  induction es generalizing s with
  | nil => rfl
  | cons e es ih =>
    rw [List.foldl_cons, ih, List.reverse_cons, List.append_assoc]
    rfl

end Session

end Outbound
