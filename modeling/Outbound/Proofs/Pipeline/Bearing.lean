import Outbound.Proofs.Pipeline.Sending
import Outbound.Proofs.Session.Past
import Outbound.Proofs.Token.Keeping

/-!
# What the requests of a pipeline bear

A pipeline whose credentials come from an issuer sends nothing without a token that is valid at that
very time or has just been brought. A wait makes no difference, since credentials are asked for
behind it.

* **bearing** — `Bears` says of a request and the past of its sending what it bears; nothing that is
  recorded between asking for credentials and sending takes this away (`Bears.record`);
* **invariant** — `Vouched`: every request that was sent bears what it should, and what is kept has
  been brought; what leads from one session to another without sending preserves it
  (`Vouched.of_idle`), and so do asking for credentials (`vouched_call`) and sending
  (`vouched_delivered`);
* **run** — so do a round, a course, a call and any number of uses (`vouched_round`,
  `vouched_course`, `vouched_send`, `vouched_after`).
-/

namespace Outbound

open Outbound.Time

/-! ## Bearing a token -/

/-- **Bearing**: a request that is sent at the time `now`, with `past` behind it, has a bearer token
for its only authorization. The token is the one that was brought last. It is valid, or it was
brought after credentials were asked for: since then there was neither a send of a call nor a
wait. -/
def Bears (t : Transport) (past : List Event) (now : Instant) (r : Request) : Prop :=
  ∃ during asked budget before token,
    past = during ++ .authenticating asked budget :: before ∧
    (∀ e ∈ during, e.milestone? = none) ∧
    r.headers.values .authorization = [token.bearer] ∧
    past.findSome? (Event.issued? t) = some token ∧
    (token.isValidAt now ∨ during.findSome? (Event.issued? t) = some token)

/-- Sending a call is a milestone. -/
theorem Event.isSendFor_call_of_milestone? {e : Event} (h : e.milestone? = none) :
    e.isSendFor .call = false := by
  cases e with
  | sent purpose => cases purpose <;> first | rfl | cases h
  | _ => rfl

theorem Event.issued?_of_isAside {t : Transport} {e : Event} (h : e.isAside) :
    e.issued? t = none := by
  cases e with
  | sent => cases h.2
  | _ => rfl

/-- **What happens aside** takes nothing away. -/
theorem Bears.record {t : Transport} {past : List Event} {now : Instant} {r : Request} {e : Event}
    (h : Bears t past now r) (he : e.isAside) : Bears t (e :: past) now r := by
  obtain ⟨during, asked, budget, before, token, rfl, hduring, hvalues, hlast, hfit⟩ := h
  have hskip (l : List Event) : (e :: l).findSome? (Event.issued? t) =
      l.findSome? (Event.issued? t) := by
    rw [List.findSome?_cons, Event.issued?_of_isAside he]
  refine ⟨e :: during, asked, budget, before, token, rfl, ?_, hvalues, ?_, ?_⟩
  · exact List.forall_mem_cons.mpr ⟨he.1, hduring⟩
  · rw [hskip, hlast]
  · rw [hskip]
    exact hfit

/-- Compression leaves the credentials alone. -/
theorem Bears.compressed {t : Transport} {past : List Event} {now : Instant} {r : Request}
    (h : Bears t past now r) (p : Pipeline) : Bears t past now (p.compressed r) := by
  obtain ⟨during, asked, budget, before, token, hpast, hduring, hvalues, hfit⟩ := h
  refine ⟨during, asked, budget, before, token, hpast, hduring, ?_, hfit⟩
  unfold Pipeline.compressed
  split
  · rw [r.values_compress_of_ne (by decide) (by decide), hvalues]
  · exact hvalues

/-- **Behind a wait.** If the token that had been brought last when a wait began is not valid any
more, the request bears one that has been brought since. -/
theorem Bears.behind_wait {t : Transport} {between earlier : List Event} {wait : Event}
    {now : Instant} {r : Request} (h : Bears t (between ++ wait :: earlier) now r)
    (hwait : wait.isThrottled)
    (hstale : ∀ token, earlier.findSome? (Event.issued? t) = some token → ¬ token.isValidAt now) :
    ∃ token, between.findSome? (Event.issued? t) = some token ∧
      r.headers.values .authorization = [token.bearer] := by
  obtain ⟨during, asked, budget, before, token, hpast, hduring, hvalues, hlast, hfit⟩ := h
  refine ⟨token, ?_, hvalues⟩
  have hskip : (wait :: earlier).findSome? (Event.issued? t) =
      earlier.findSome? (Event.issued? t) := by
    cases wait with
    | throttled => rfl
    | _ => cases hwait
  rcases List.append_eq_append_iff.mp hpast with ⟨rest, rfl, hrest⟩ | ⟨rest, rfl, hrest⟩
  -- credentials were asked for before the wait: not so, since no wait lies in between
  · rcases List.cons_eq_append_iff.mp hrest with ⟨rfl, hcons⟩ | ⟨rest', rfl, -⟩
    · obtain ⟨rfl, -⟩ := List.cons.inj hcons
      cases hwait
    · have hnone := hduring wait (List.mem_append_right _ List.mem_cons_self)
      cases wait with
      | throttled => cases hnone
      | _ => cases hwait
  -- they were asked for behind it
  · rcases hfit with hvalid | hfresh
    · rw [List.findSome?_append, hskip] at hlast
      rcases Option.or_eq_some_iff.mp hlast with hsince | ⟨-, hold⟩
      · exact hsince
      · exact absurd hvalid (hstale token hold)
    · rw [List.findSome?_append, hfresh, Option.some_or]

/-! ## The invariant -/

/-- **Vouched for**: a kept token is the one that was brought last, and every request of a call bore
what it should when it was sent. -/
structure Vouched (t : Transport) (s : Session) : Prop where
  kept : ∀ token, s.kept = some token → s.log.findSome? (Event.issued? t) = some token
  sent : Throughout (fun e past => ∀ p r, e = .sent .call p r → Bears t past p.now r) s.log

/-- **Idle**: from one session to a later one no request of a call was sent, and what is kept is
what was brought last. -/
def Session.Idle (t : Transport) (s s' : Session) : Prop :=
  s.Remembers t s' ∧ s.Grows (fun e => e.isSendFor .call = false) s'

namespace Vouched

variable {t : Transport} {s s' : Session}

theorem start (now : Instant) : Vouched t (.start now) where
  kept _ h := nomatch h
  sent := trivial

/-- **Without a send** there is nothing else to vouch for. -/
theorem of_idle (h : Vouched t s) (hidle : s.Idle t s') : Vouched t s' := by
  obtain ⟨⟨new, hlog, hkept⟩, new', hlog', hnew⟩ := hidle
  constructor
  · intro token htoken
    rw [hkept] at htoken
    rw [hlog, List.findSome?_append]
    rcases hissued : new.findSome? (Event.issued? t) with _ | issued
    · rw [hissued, Option.none_or] at htoken
      rw [Option.none_or, h.kept token htoken]
    · rw [hissued, Option.some_or] at htoken
      rw [Option.some_or, htoken]
  · rw [hlog', throughout_append]
    refine ⟨(throughout_of_forall hnew).mono fun e past he p r hsent => ?_, h.sent⟩
    rw [hsent] at he
    cases he

/-- **Dropping** the kept token. -/
theorem dropped (h : Vouched t s) : Vouched t (s.keep none) where
  kept _ h := nomatch h
  sent := h.sent

end Vouched

/-! ## Idle steps -/

namespace Session.Idle

variable {t : Transport} {s s₁ s₂ : Session}

theorem refl (s : Session) : s.Idle t s := ⟨.refl s, .refl s⟩

theorem trans (h₁ : s.Idle t s₁) (h₂ : s₁.Idle t s₂) : s.Idle t s₂ :=
  ⟨h₁.1.trans h₂.1, h₁.2.trans h₂.2⟩

/-- **Without any send** nothing is brought. -/
theorem of_grows (h : s.Grows (fun e => e.isSend = false) s₁) (hkept : s₁.kept = s.kept) :
    s.Idle t s₁ := by
  obtain ⟨new, hlog, hnew⟩ := h
  have hissued : new.findSome? (Event.issued? t) = none := by
    refine List.findSome?_eq_none_iff.mpr fun e he => ?_
    have hsend := hnew e he
    cases e with
    | sent => cases hsend
    | _ => rfl
  refine ⟨⟨new, hlog, ?_⟩, new, hlog, fun e he => ?_⟩
  · rw [hissued, Option.none_or, hkept]
  · exact Event.isSendFor_of_not_isSend (hnew e he) _

/-- Recording anything but a send. -/
theorem record {e : Event} (h : s.Idle t s₁) (he : e.isSend = false) : s.Idle t (s₁.record e) :=
  h.trans (of_grows (.record (.refl s₁) he) rfl)

end Session.Idle

/-- **An exchange** sends no call. -/
theorem Issuer.idle_exchanged (i : Issuer) (t : Transport) (s : Session) :
    s.Idle t (i.exchanged t s) := by
  refine ⟨i.remembers_exchanged t s, _, i.log_exchanged t s, fun e he => ?_⟩
  exact Event.isSendFor_call_of_milestone? (i.milestone?_of_mem_exchangeEvents t he)

/-- **A look-up** sends no call. -/
theorem Issuer.idle_token (i : Issuer) (t : Transport) (s : Session) :
    s.Idle t ((i.token t).run s).2 := by
  rcases hv : s.validToken? with _ | token
  · rw [i.run_token_miss t hv]
    exact i.idle_exchanged t s
  · rw [i.token_hit t hv]
    exact .refl s

/-- **Asking an issuer for credentials** sends no call. -/
theorem Issuer.idle_call {i : Issuer} {t : Transport} {r r' : Request} {s s' : Session}
    {result : Except Failure Unit}
    (hcall : (((Credential.iam i).authenticator t).call r).run s = ((result, r'), s')) :
    (s.record (.authenticating s.now r.budget)).Idle t s' := by
  have hsession := Credential.session_authenticate_iam i t r
    (s.record (.authenticating s.now r.budget))
  obtain rfl : _ = s' := hsession.symm.trans (congrArg Prod.snd hcall)
  exact i.idle_token t _

/-! ## Steps -/

section Steps

variable {i : Issuer} {t : Transport} {s s' : Session} {r r' : Request}

/-- **Asking for credentials.** The request that is answered bears a token that is valid now or that
has just been brought. -/
theorem vouched_call (h : Vouched t s) {result : Except Failure Unit}
    (hcall : (((Credential.iam i).authenticator t).call r).run s = ((result, r'), s')) :
    Vouched t s' ∧ (result = .ok () → Bears t s'.log s'.now r') := by
  let s₀ := s.record (.authenticating s.now r.budget)
  have h₀ : s.Idle t s₀ := .record (.refl s) rfl
  refine ⟨h.of_idle (h₀.trans (Issuer.idle_call hcall)), ?_⟩
  rintro rfl
  rcases Credential.call_iam_cases i t r s with ⟨token, hkept, hvalid, hrun⟩ |
    ⟨token, hreply, hrun⟩ | ⟨f, -, hrun⟩
  -- a kept token: it was valid when credentials were asked for, and no time has passed
  · obtain ⟨hbear, rfl⟩ := Prod.mk.inj (hcall.symm.trans hrun)
    exact ⟨[], s.now, r.budget, s.log, token, rfl, List.forall_mem_nil _,
      Request.values_bear hbear.symm, h.kept token hkept, .inl hvalid⟩
  -- a token that was brought
  · obtain ⟨hbear, rfl⟩ := Prod.mk.inj (hcall.symm.trans hrun)
    have hbrought : (i.exchangeEvents t s₀.position).findSome? (Event.issued? t) = some token := by
      rw [i.findSome?_exchangeEvents, hreply]
      rfl
    refine ⟨_, s.now, r.budget, s.log, token, i.log_exchanged t s₀,
      fun e he => i.milestone?_of_mem_exchangeEvents t he, Request.values_bear hbear.symm, ?_,
      .inr hbrought⟩
    rw [i.log_exchanged, List.findSome?_append, hbrought, Option.some_or]
  -- no token
  · cases hcall.symm.trans hrun

/-- **Sending** a request that bears what it should. -/
theorem vouched_delivered (h : Vouched t s) (hb : Bears t s.log s.now r) :
    Vouched t (t.delivered r s) := by
  refine ⟨h.kept, fun p r' hsent => ?_, h.sent⟩
  cases hsent
  exact hb

variable {throttle : Throttle} {cancellation : Option Cancellation}

/-- **A round.** What is sent next has been given its credentials behind the wait. -/
theorem vouched_round (ha : throttle.authenticator = (Credential.iam i).authenticator t)
    (h : Vouched t s) (hb : Bears t s.log s.now r) {result : Outcome ⊕ Request}
    (hround : (throttle.round cancellation t.next r).run s = (result, s')) :
    Vouched t s' ∧ ∀ r', result = .inr r' → Bears t s'.log s'.now r' := by
  have hsent := vouched_delivered h hb
  have hanswered {outcome : Outcome} {s₁ : Session} (hn : (t.next.run r).run s = (outcome, s₁)) :
      t.delivered r s = s₁ := (Prod.mk.inj ((t.run_next r s).symm.trans hn)).2
  have hpaused {response : Response} {left : Request} {s₁ s₂ : Session}
      {waited : Except Failure Unit}
      (hp : (throttle.pause cancellation response left).run s₁ = (waited, s₂)) : s₁.Idle t s₂ :=
    .of_grows (Throttle.grows_pause hp).1 (Throttle.grows_pause hp).2
  cases Throttle.rounded_of_run hround with
  | settled hn => exact ⟨hanswered hn ▸ hsent, fun _ h => nomatch h⟩
  | spent hn =>
    rw [hanswered hn] at hsent
    exact ⟨hsent.of_idle (.record (.record (.refl _) rfl) rfl), fun _ h => nomatch h⟩
  | givenUp hn _ _ hp =>
    rw [hanswered hn] at hsent
    exact ⟨hsent.of_idle (hpaused hp), fun _ h => nomatch h⟩
  | refused hn _ _ hp hc =>
    rw [hanswered hn] at hsent
    rw [ha] at hc
    exact ⟨(vouched_call (hsent.of_idle (hpaused hp)) hc).1, fun _ h => nomatch h⟩
  | resent hn _ _ hp hc =>
    rw [hanswered hn] at hsent
    rw [ha] at hc
    obtain ⟨hvouched, hbears⟩ := vouched_call (hsent.of_idle (hpaused hp)) hc
    refine ⟨hvouched, ?_⟩
    rintro _ ⟨⟩
    exact hbears rfl

/-- **A course.** By induction on the rounds; the request of a round bears what the round before has
given it. -/
theorem vouched_course (ha : throttle.authenticator = (Credential.iam i).authenticator t)
    (rounds : Nat) (h : Vouched t s) (hb : Bears t s.log s.now r) {course : Course}
    (hcourse : (throttle.course cancellation t.next rounds r).run s = (course, s')) :
    Vouched t s' := by
  induction rounds generalizing r s course with
  | zero =>
    cases hcourse
    exact h
  | succ more ih =>
    rw [Throttle.course_succ] at hcourse
    rcases hr : (throttle.round cancellation t.next r).run s with ⟨outcome | r₁, s₁⟩
    · rw [hr] at hcourse
      cases hcourse
      exact (vouched_round ha h hb hr).1
    · rw [hr] at hcourse
      cases hcourse
      obtain ⟨hvouched, hbears⟩ := vouched_round ha h hb hr
      exact ih hvouched (hbears r₁ rfl) rfl

end Steps

/-! ## Calls -/

namespace Pipeline

variable {p : Pipeline} {i : Issuer} {t : Transport} {s : Session}

/-- **The first credentials** of a call. -/
theorem vouched_authenticate (ha : p.authenticator = (Credential.iam i).authenticator t)
    (h : Vouched t s) {r r' : Request} {result : Except Failure Unit} {s' : Session}
    (hrun : (p.authenticate r).run s = ((result, r'), s')) :
    Vouched t s' ∧ (result = .ok () → Bears t s'.log s'.now r') := by
  rw [run_authenticate, ha] at hrun
  let s₀ := (s.record (.opened .authenticate "pipeline_send")).record
    (.counted .authenticate .attempt)
  have h₀ : Vouched t s₀ := h.of_idle (.record (.record (.refl s) rfl) rfl)
  rcases hc : (((Credential.iam i).authenticator t).call r).run s₀ with ⟨⟨result₁, r₁⟩, s₁⟩
  rw [hc] at hrun
  cases hrun
  obtain ⟨hvouched, hbears⟩ := vouched_call h₀ hc
  exact ⟨hvouched.of_idle (.record (.refl s₁) rfl), fun hok => (hbears hok).record ⟨rfl, rfl⟩⟩

/-- **A call.** -/
theorem vouched_send (ha : p.authenticator = (Credential.iam i).authenticator t)
    (hc : p.custom = []) (rounds : Nat) (r : Request) (h : Vouched t s) :
    Vouched t ((p.send t rounds r).run s).2 := by
  have hnext : chain t (p.custom.map Interceptor.recorded) = t.next := by rw [hc]; rfl
  rcases hrun : (p.send t rounds r).run s with ⟨outcome, s'⟩
  cases sent_of_run hrun with
  | refused hopen => exact (vouched_authenticate ha h hopen).1
  | passed hopen hanswered =>
    obtain ⟨hvouched, hbears⟩ := vouched_authenticate ha h hopen
    rw [hnext] at hanswered
    cases hanswered
    exact vouched_delivered hvouched ((hbears rfl).compressed p)
  | @followed _ _ policy _ _ hopen hcourse =>
    obtain ⟨hvouched, hbears⟩ := vouched_authenticate ha h hopen
    have hauth : (⟨p.authenticator, policy⟩ : Throttle).authenticator = _ := ha
    rw [hnext] at hcourse
    exact vouched_course hauth rounds (hvouched.of_idle (.record (.refl _) rfl))
      (((hbears rfl).compressed p).record ⟨rfl, rfl⟩) hcourse

variable (p i t)

/-- **What one can do with a pipeline** and the issuer behind it. -/
inductive Use
  | send (rounds : Nat) (r : Request)
  | execute (rounds : Nat) (r : Request)
  | issuer (u : Issuer.Use)

/-- **One use.** -/
def use : Use → Act Unit
  | .send rounds r => discard (p.send t rounds r)
  | .execute rounds r => discard (p.execute t rounds r)
  | .issuer u => i.use t u

/-- The session after uses in turn. -/
def after (uses : List Use) (s : Session) : Session :=
  uses.foldl (fun s u => ((p.use i t u).run s).2) s

variable {p i t}

/-- Any use of the issuer. -/
theorem vouched_issuer (h : Vouched t s) (u : Issuer.Use) : Vouched t ((i.use t u).run s).2 := by
  cases u with
  | invalidate => exact h.dropped
  | pass d => exact ⟨h.kept, h.sent⟩
  | token => exact h.of_idle (i.idle_token t s)
  | authenticate r =>
    have hsession : ((i.use t (.authenticate r)).run s).2 = _ :=
      Credential.session_authenticate_iam i t r s
    rw [hsession]
    exact h.of_idle (i.idle_token t s)

/-- **Any number of uses.** -/
theorem vouched_after (ha : p.authenticator = (Credential.iam i).authenticator t)
    (hc : p.custom = []) (uses : List Use) (h : Vouched t s) : Vouched t (p.after i t uses s) := by
  induction uses generalizing s with
  | nil => exact h
  | cons u uses ih =>
    refine ih ?_
    cases u with
    | send rounds r => exact vouched_send ha hc rounds r h
    | execute rounds r => exact vouched_send ha hc rounds r h
    | issuer u => exact vouched_issuer h u

/-- **What requests bear.** Every request of a call that reaches the transport, in whatever calls,
with whatever replies, has a bearer token for its only authorization. The token is valid at that
time, or it was brought when credentials were last asked for, which was after the last wait. A token
that was kept when a wait began and is not valid any more when it is over is not sent, unless it is
brought again. -/
theorem bears_valid_or_fresh (i : Issuer) (t : Transport) (compresses : Bool)
    (retries : Option RetryPolicy) (defaults : Headers) (uses : List Use) (now : Instant) :
    let p : Pipeline := ⟨(Credential.iam i).authenticator t, compresses, retries, [], defaults⟩
    let log := (p.after i t uses (.start now)).log
    (∀ later q r past, log = later ++ .sent .call q r :: past → Bears t past q.now r) ∧
    ∀ later q r between wait earlier,
      log = later ++ .sent .call q r :: (between ++ wait :: earlier) → wait.isThrottled →
      (∀ token, earlier.findSome? (Event.issued? t) = some token → ¬ token.isValidAt q.now) →
      ∃ token, between.findSome? (Event.issued? t) = some token ∧
        r.headers.values .authorization = [token.bearer] := by
  intro p log
  have hvouched : Vouched t (p.after i t uses (.start now)) :=
    vouched_after rfl rfl uses (.start now)
  have hbears : ∀ later q r past, log = later ++ .sent .call q r :: past → Bears t past q.now r :=
    fun later q r past hsplit => throughout_iff.mp hvouched.sent later _ past hsplit q r rfl
  refine ⟨hbears, fun later q r between wait earlier hsplit hwait hstale => ?_⟩
  exact (hbears later q r _ hsplit).behind_wait hwait hstale

end Pipeline

end Outbound
