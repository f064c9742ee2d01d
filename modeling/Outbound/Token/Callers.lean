import Outbound.Token.Issuer

/-!
# Callers of one issuer

Many callers may want a token at the same time. Each looks at the kept token; who finds none that is
valid needs the guard, looks again once it has it, and only then exchanges. At most one caller has
the guard. Nothing is said about who gets it next: any caller who needs it may take it when it is
free.

* **steps** — `Crowd.step?` says what each move does, and when it cannot happen;
* **reach** — `Crowd.Reaches` closes over all moves in any order: arrivals, takings of the guard,
  replies, callers who give up, `invalidate`, and the passing of time;
* **schedules** — in `Issuer.tokensAtOnce` all callers begin before any of them is answered, and the
  guard goes round in their order; in `Issuer.tokensInTurn` each is answered before the next begins.
-/

namespace Outbound

open Outbound.Time

/-- **What a caller is answered**, and where it comes from: the kept token as it was read at a time,
or the caller's own exchange. -/
inductive Answer
  | kept (token : AccessToken) (readAt : Instant)
  | exchanged (result : Except Failure AccessToken)

/-- The result of an answer. -/
def Answer.result : Answer → Except Failure AccessToken
  | .kept token _ => .ok token
  | .exchanged result => result

/-- **How far a caller has come**: not here yet, in need of the guard, in possession of it, waiting
for the reply to its request, answered, or gone without an answer. -/
inductive Phase
  | away
  | needing
  | guarding
  | exchanging (outcome : Except TransportFailure Response) (due : Instant)
  | answered (answer : Answer)
  | gone

/-- **What can happen.** -/
inductive Move
  | arrive (caller : Nat)
  | acquire (caller : Nat)
  | recheck (caller : Nat)
  | settle (caller : Nat)
  | abandon (caller : Nat)
  | invalidate
  | pass (d : Duration)
  deriving DecidableEq, Repr

/-- **Callers around one session**: when each came and how far it is, and who has the guard. -/
structure Crowd where
  session : Session
  arrival : Nat → Option Instant
  phase : Nat → Phase
  holder : Option Nat

namespace Crowd

/-- Nobody has come yet. -/
def start (s : Session) : Crowd := ⟨s, fun _ => none, fun _ => .away, none⟩

variable (c : Crowd)

/-- The crowd with one caller in another phase. -/
def put (caller : Nat) (phase : Phase) : Crowd :=
  { c with phase := fun n => if n = caller then phase else c.phase n }

/-- The crowd in which a caller has come now. -/
def note (caller : Nat) : Crowd :=
  { c with arrival := fun n => if n = caller then some c.session.now else c.arrival n }

/-- The crowd around another session. -/
def around (s : Session) : Crowd := { c with session := s }

/-- The crowd with the guard in other hands, or free. -/
def guardedBy (holder : Option Nat) : Crowd := { c with holder }

/-- **Looking at the kept token** on arrival. -/
def arrive (caller : Nat) : Crowd :=
  match c.session.validToken? with
  | some token => (c.note caller).put caller (.answered (.kept token c.session.now))
  | none => (c.note caller).put caller .needing

/-- **Looking again**, with the guard. A valid token is the answer and frees the guard, otherwise a
request is sent. -/
def recheck (i : Issuer) (t : Transport) (caller : Nat) : Crowd :=
  match c.session.validToken? with
  | some token => (c.put caller (.answered (.kept token c.session.now))).guardedBy none
  | none =>
    let (reply, s) := (i.ask t).run c.session
    (c.put caller (.exchanging reply.outcome (Instant.after s.now reply.delay))).around s

/-- **Taking the reply**, which frees the guard. -/
def settle (caller : Nat) (outcome : Except TransportFailure Response) : Crowd :=
  let (result, s) := (Issuer.settle outcome).run c.session
  ((c.put caller (.answered (.exchanged result))).around s).guardedBy none

/-- **Giving up.** A caller who has the guard frees it. -/
def abandon (caller : Nat) : Crowd :=
  (c.put caller .gone).guardedBy (if c.holder = some caller then none else c.holder)

/-- **One step**, if it can happen. The guard can be taken when it is free, a reply once its time
has come. -/
def step? (i : Issuer) (t : Transport) : Move → Option Crowd
  | .arrive caller =>
    match c.phase caller with
    | .away => some (c.arrive caller)
    | _ => none
  | .acquire caller =>
    match c.phase caller, c.holder with
    | .needing, none => some ((c.put caller .guarding).guardedBy (some caller))
    | _, _ => none
  | .recheck caller =>
    match c.phase caller with
    | .guarding => some (c.recheck i t caller)
    | _ => none
  | .settle caller =>
    match c.phase caller with
    | .exchanging outcome due =>
      if due ≤ c.session.now then some (c.settle caller outcome) else none
    | _ => none
  | .abandon caller =>
    match c.phase caller with
    | .needing | .guarding | .exchanging .. => some (c.abandon caller)
    | _ => none
  | .invalidate => some (c.around (c.session.keep none))
  | .pass d => some (c.around (c.session.later d))

/-- Steps one after another, if each can happen. -/
def run? (i : Issuer) (t : Transport) (c : Crowd) : List Move → Option Crowd
  | [] => some c
  | move :: moves => (c.step? i t move).bind (run? i t · moves)

/-- **Reach**: what can come of a crowd, by any moves in any order. -/
inductive Reaches (i : Issuer) (t : Transport) : Crowd → Crowd → Prop
  | refl (c : Crowd) : Reaches i t c c
  | step {c d e : Crowd} {move : Move} :
      Reaches i t c d → d.step? i t move = some e → Reaches i t c e

/-- The result of a caller who has been answered. -/
def result? (caller : Nat) : Option (Except Failure AccessToken) :=
  match c.phase caller with
  | .answered answer => some answer.result
  | _ => none

/-! ## Taking turns -/

/-- A move that is left out if it cannot happen. -/
def attempt (i : Issuer) (t : Transport) (move : Move) : Crowd := (c.step? i t move).getD c

/-- **The first turn of a caller**: as far as it gets without waiting. -/
def begin (i : Issuer) (t : Transport) (caller : Nat) : Crowd :=
  c.attempt i t (.arrive caller) |>.attempt i t (.acquire caller) |>.attempt i t (.recheck caller)

/-- The time until the reply to a caller arrives. -/
def untilDue (caller : Nat) : Duration :=
  match c.phase caller with
  | .exchanging _ due => ⟨(due - c.session.now).toNat⟩
  | _ => ⟨0⟩

/-- **The last turn of a caller**: it takes the guard unless it has it, looks again, and takes the
reply to its request once that has come. -/
def conclude (i : Issuer) (t : Transport) (caller : Nat) : Crowd :=
  let c := c.attempt i t (.acquire caller) |>.attempt i t (.recheck caller)
  c.attempt i t (.pass (c.untilDue caller)) |>.attempt i t (.settle caller)

end Crowd

namespace Issuer

variable (i : Issuer) (t : Transport)

/-- **All at once**: `n` callers begin in order, and the guard goes round in the same order. -/
def tokensAtOnce (n : Nat) (s : Session) : List (Except Failure AccessToken) × Session :=
  let begun := (List.range n).foldl (·.begin i t ·) (Crowd.start s)
  let c := (List.range n).foldl (·.conclude i t ·) begun
  ((List.range n).filterMap c.result?, c.session)

/-- **In turn**: `n` callers, each of whom is answered before the next begins. -/
def tokensInTurn : Nat → Act (List (Except Failure AccessToken))
  | 0 => return []
  | more + 1 => do
    let result ← i.token t
    return result :: (← tokensInTurn more)

end Issuer

end Outbound
