import Outbound.Proofs.Pipeline.Passage
import Outbound.Proofs.Throttle.Resend

/-!
# The books of a call

Every stage counts its attempts and how they end. What a call adds to these counters is accounted
for by what it does: getting its first credentials, requesting tokens, sending, waiting, running out
of budget.

* **accounts** — an `Account` says how often each of these is done in a stretch of the log, and
  `Account.Balances` that the counters agree; accounts of stretches that follow each other add up
  (`Balances.append`);
* **pieces** — whatever a call does leaves a stretch that balances: `balances_exchange` and
  `Credential.log_call` for credentials, `Throttle.log_pause` for waits;
* **endings** — `Account.Closes` compares the sends of a call with its waits, by the last of its
  milestones; credentials are refused in a session of the call (`Account.RefusedIn`), and a call is
  unfinished only if its rounds are used up;
* **courses** — a round that leads to another one is entered (`balances_round`), one that ends the
  call closes the books (`books_round`), and `books_course` adds them up;
* **calls** — `Pipeline.send_is_booked` puts the first credentials in front.
-/

namespace Outbound

open Outbound.Time

/-! ## Accounts -/

/-- **The tally** of a stage in a stretch of the log: how often it was counted to have got so
far. -/
def Stage.tally (stage : Stage) (progress : Progress) (es : List Event) : Nat :=
  es.count (.counted stage progress)

/-- **Accounts**: how often the first credentials of a call were asked for, granted and refused, the
user's request was sent, a wait began, and a budget was found to be spent. -/
structure Account where
  asked : Nat
  granted : Nat
  refused : Nat
  sends : Nat
  waits : Nat
  spent : Nat

namespace Account

/-- Accounts are added item by item. -/
instance : Add Account where
  add a b := ⟨a.asked + b.asked, a.granted + b.granted, a.refused + b.refused, a.sends + b.sends,
    a.waits + b.waits, a.spent + b.spent⟩

/-- Nothing was done. -/
instance : Zero Account where
  zero := ⟨0, 0, 0, 0, 0, 0⟩

/-- Nothing is entered about first credentials. -/
structure Unopened (account : Account) : Prop where
  asked : account.asked = 0
  granted : account.granted = 0
  refused : account.refused = 0

theorem Unopened.add {a b : Account} (ha : a.Unopened) (hb : b.Unopened) : (a + b).Unopened :=
  ⟨congrArg₂ (· + ·) ha.asked hb.asked, congrArg₂ (· + ·) ha.granted hb.granted,
    congrArg₂ (· + ·) ha.refused hb.refused⟩

/-- **In balance**: the counters in a stretch of the log agree with its account, and with each
other. -/
structure Balances (a : Account) (es : List Event) : Prop where
  asked : Stage.authenticate.tally .attempt es = a.asked
  granted : Stage.authenticate.tally .success es = a.granted
  refused : Stage.authenticate.tally .failure es = a.refused
  /-- a token request is counted when it is sent -/
  requests : Stage.tokenRequest.tally .attempt es = es.countP (Event.isSendFor .token)
  /-- and again when it has brought a token or none -/
  replies : Stage.tokenRequest.tally .success es + Stage.tokenRequest.tally .failure es =
    Stage.tokenRequest.tally .attempt es
  sends : es.countP (Event.isSendFor .call) = a.sends
  waits : es.countP Event.isThrottled = a.waits
  /-- a resend is counted when the wait for it begins -/
  resends : Stage.rateLimitRetry.tally .attempt es = a.waits
  /-- and not again, whatever comes of it -/
  resent : Stage.rateLimitRetry.tally .success es = 0
  /-- a budget that is spent is counted as a resend that failed -/
  spent : Stage.rateLimitRetry.tally .failure es = a.spent

variable {a b : Account} {es es' : List Event}

/-- **Stretches that follow each other** balance together. -/
theorem Balances.append (ha : a.Balances es) (hb : b.Balances es') :
    (a + b).Balances (es ++ es') where
  asked := List.count_append.trans (congrArg₂ (· + ·) ha.asked hb.asked)
  granted := List.count_append.trans (congrArg₂ (· + ·) ha.granted hb.granted)
  refused := List.count_append.trans (congrArg₂ (· + ·) ha.refused hb.refused)
  requests := by
    rw [List.countP_append, ← ha.requests, ← hb.requests]
    exact List.count_append
  replies := by
    rw [Stage.tally, Stage.tally, Stage.tally, List.count_append, List.count_append,
      List.count_append, Nat.add_add_add_comm]
    exact congrArg₂ (· + ·) ha.replies hb.replies
  sends := List.countP_append.trans (congrArg₂ (· + ·) ha.sends hb.sends)
  waits := List.countP_append.trans (congrArg₂ (· + ·) ha.waits hb.waits)
  resends := List.count_append.trans (congrArg₂ (· + ·) ha.resends hb.resends)
  resent := List.count_append.trans (congrArg₂ (· + ·) ha.resent hb.resent)
  spent := List.count_append.trans (congrArg₂ (· + ·) ha.spent hb.spent)

/-! ## Pieces -/

theorem balances_nil : Balances 0 [] := by constructor <;> rfl

theorem balances_opened (stage : Stage) (site : String) : Balances 0 [.opened stage site] := by
  constructor <;> rfl

/-- Credentials that are asked for before a resend are not counted. -/
theorem balances_authenticating (time : Instant) (budget : Option RetryBudget) :
    Balances 0 [.authenticating time budget] := by constructor <;> rfl

theorem balances_sent (position : Position) (r : Request) :
    Balances ⟨0, 0, 0, 1, 0, 0⟩ [.sent .call position r] := by constructor <;> rfl

theorem balances_spent :
    Balances ⟨0, 0, 0, 0, 0, 1⟩ [.counted .rateLimitRetry .failure, .spent] := by
  constructor <;> rfl

/-- A token request is counted when it is sent and when it has been answered. -/
theorem balances_exchange (i : Issuer) (t : Transport) (position : Position) :
    Balances 0 (i.exchangeEvents t position) := by
  rw [Issuer.exchangeEvents]
  cases t.tokenReply position <;> constructor <;> rfl

/-- A header that is passed over is not counted. -/
theorem balances_waiting (time : Instant) (interval : Duration) (remaining : Option Nat)
    (b : Backoff) :
    Balances ⟨0, 0, 0, 0, 1, 0⟩ (.counted .rateLimitRetry .attempt ::
      .throttled time interval remaining :: (Event.ofBackoff b).reverse) := by
  rw [Event.ofBackoff]
  cases b.ignored <;> constructor <;> rfl

/-- **First credentials** are counted before they are asked for, and when they are granted. -/
theorem Balances.around_granted (h : Balances 0 es) (site : String) :
    Balances ⟨1, 1, 0, 0, 0, 0⟩ (.counted .authenticate .success ::
      (es ++ [.counted .authenticate .attempt, .opened .authenticate site])) := by
  have hbefore : Balances ⟨1, 0, 0, 0, 0, 0⟩
      [.counted .authenticate .attempt, .opened .authenticate site] := by constructor <;> rfl
  have hafter : Balances ⟨0, 1, 0, 0, 0, 0⟩ [.counted .authenticate .success] := by
    constructor <;> rfl
  exact hafter.append (h.append hbefore)

/-- Or else when they are refused. -/
theorem Balances.around_refused (h : Balances 0 es) (site : String) :
    Balances ⟨1, 0, 1, 0, 0, 0⟩ (.counted .authenticate .failure ::
      (es ++ [.counted .authenticate .attempt, .opened .authenticate site])) := by
  have hbefore : Balances ⟨1, 0, 0, 0, 0, 0⟩
      [.counted .authenticate .attempt, .opened .authenticate site] := by constructor <;> rfl
  have hafter : Balances ⟨0, 0, 1, 0, 0, 0⟩ [.counted .authenticate .failure] := by
    constructor <;> rfl
  exact hafter.append (h.append hbefore)

/-! ## Endings -/

/-- **Refused**: the last milestone of a stretch of the log is that credentials were asked for, and
the authenticator refuses them in the session in which this was recorded. -/
def RefusedIn (a : Authenticator) (past es : List Event) (f : Failure) : Prop :=
  ∃ (q : Request) (b : Session) (later earlier : List Event),
    es = later ++ .authenticating b.now q.budget :: earlier ∧
    (∀ e ∈ later, e.milestone? = none) ∧
    b.log = .authenticating b.now q.budget :: (earlier ++ past) ∧
    ((a.authenticate q).run b).1.1 = .error f

/-- **How a call closes** that is followed for so many rounds, by the last of its milestones: with
the answer to its last send, given up in a wait, without credentials, or not at all, if the rounds
are used up. Only in the first case is there a send that no wait comes after. -/
inductive Closes (account : Account) (a : Authenticator) (t : Transport) (past es : List Event)
    (rounds : Nat) : Outcome → Prop
  | answered {position} (last : es.findSome? Event.milestone? = some (.sent position))
      (sends : account.sends = account.waits + 1) :
      Closes account a t past es rounds (t.answer position)
  | givenUp {time interval} (last : es.findSome? Event.milestone? = some (.waiting time interval))
      (sends : account.sends = account.waits) :
      Closes account a t past es rounds (.failure .cancelled)
  | refused {f} (last : RefusedIn a past es f) (sends : account.sends = account.waits) :
      Closes account a t past es rounds (.failure f)
  | unfollowed (sends : account.sends = account.waits) (followed : account.sends = rounds) :
      Closes account a t past es rounds .unfinished

variable {a : Authenticator} {t : Transport} {account before : Account} {past : List Event}
  {rounds : Nat} {outcome : Outcome} {f : Failure}

/-- What comes before is past, too. -/
theorem RefusedIn.behind (h : RefusedIn a (es' ++ past) es f) : RefusedIn a past (es ++ es') f := by
  obtain ⟨q, b, later, earlier, rfl, hlater, hlog, hrefuses⟩ := h
  refine ⟨q, b, later, earlier ++ es', ?_, hlater, ?_, hrefuses⟩
  · rw [List.append_assoc, List.cons_append]
  · rw [hlog, List.append_assoc]

/-- And what is no milestone may come after it. -/
theorem RefusedIn.cons {e : Event} (h : RefusedIn a past es f) (he : e.milestone? = none) :
    RefusedIn a past (e :: es) f := by
  obtain ⟨q, b, later, earlier, rfl, hlater, hlog, hrefuses⟩ := h
  exact ⟨q, b, e :: later, earlier, rfl, List.forall_mem_cons.mpr ⟨he, hlater⟩, hlog, hrefuses⟩

/-- **What comes before** does not matter, if there is a wait after each of its sends, and these are
added to the rounds. -/
theorem Closes.behind (h : account.Closes a t (es' ++ past) es rounds outcome)
    (hb : before.sends = before.waits) :
    (account + before).Closes a t past (es ++ es') (rounds + before.sends) outcome := by
  have hlast {m : Milestone} (hm : es.findSome? Event.milestone? = some m) :
      (es ++ es').findSome? Event.milestone? = some m := by
    rw [List.findSome?_append, hm, Option.some_or]
  have hsends (n : Nat) (hn : account.sends = account.waits + n) :
      (account + before).sends = (account + before).waits + n := by
    change account.sends + before.sends = account.waits + before.waits + n
    rw [hn, hb, Nat.add_right_comm]
  cases h with
  | answered last sends => exact .answered (hlast last) (hsends 1 sends)
  | givenUp last sends => exact .givenUp (hlast last) (hsends 0 sends)
  | refused last sends => exact .refused last.behind (hsends 0 sends)
  | unfollowed sends followed =>
    exact .unfollowed (hsends 0 sends) (congrArg (· + before.sends) followed)

/-- **The books** of a call, or of what is left of it with some budget: they balance, they are
closed, and a spent budget is entered once, if the call ends with a throttled answer because it may
not be sent again. -/
structure Books (account : Account) (a : Authenticator) (retries : Option RetryPolicy)
    (budget : Option RetryBudget) (t : Transport) (past es : List Event) (rounds : Nat)
    (outcome : Outcome) : Prop where
  balances : account.Balances es
  closes : account.Closes a t past es rounds outcome
  once : account.spent ≤ 1
  spent : account.spent = 1 ↔ outcome.isThrottled ∧
    ∃ policy, retries = some policy ∧ (account.sends : ℕ∞) = policy.sendLimit budget

variable {retries : Option RetryPolicy} {budget left : Option RetryBudget}

/-- **Unspent**: books that end without a throttled answer, or where throttled answers are not dealt
with. -/
theorem Books.of_unspent (hbalances : account.Balances es)
    (hcloses : account.Closes a t past es rounds outcome) (hspent : account.spent = 0)
    (h : outcome.isThrottled = false ∨ retries = none) :
    account.Books a retries budget t past es rounds outcome where
  balances := hbalances
  closes := hcloses
  once := hspent ▸ Nat.zero_le 1
  spent := by
    rw [hspent]
    refine ⟨fun h01 => absurd h01 Nat.zero_ne_one, ?_⟩
    rintro ⟨hthrottled, policy, rfl, -⟩
    rcases h with h | h
    · rw [h] at hthrottled
      cases hthrottled
    · cases h

/-- **What comes before** is added, if there is a wait after each of its sends and the limit counts
them. -/
theorem Books.behind (h : account.Books a retries left t (es' ++ past) es rounds outcome)
    (hb : before.Balances es') (hwaits : before.sends = before.waits) (hspent : before.spent = 0)
    (hlimit : ∀ policy, retries = some policy →
      policy.sendLimit budget = policy.sendLimit left + (before.sends : ℕ∞)) :
    (account + before).Books a retries budget t past (es ++ es') (rounds + before.sends)
      outcome where
  balances := h.balances.append hb
  closes := h.closes.behind hwaits
  once := by
    change account.spent + before.spent ≤ 1
    rw [hspent]
    exact h.once
  spent := by
    change account.spent + before.spent = 1 ↔ _
    rw [hspent, Nat.add_zero, h.spent]
    refine and_congr_right fun _ => exists_congr fun policy => and_congr_right fun hpolicy => ?_
    change _ ↔ ((account.sends + before.sends : ℕ) : ℕ∞) = _
    rw [hlimit policy hpolicy, Nat.cast_add]
    exact (ENat.add_left_injective_of_ne_top (ENat.natCast_ne_top _)).eq_iff.symm

end Account

/-! ## Credentials and waits in the log -/

/-- **Asking for credentials** leaves a stretch that balances, and one milestone; if they are
refused, then in the session in which this was recorded. -/
theorem Credential.log_call (c : Credential) (t : Transport) {r r' : Request} {s s' : Session}
    {result : Except Failure Unit}
    (hcall : ((c.authenticator t).call r).run s = ((result, r'), s')) :
    ∃ es, s'.log = es ++ s.log ∧ Account.Balances 0 es ∧
      ∀ f, result = .error f → Account.RefusedIn (c.authenticator t) s.log es f := by
  let s₀ := s.record (.authenticating s.now r.budget)
  have hfetch : ∃ es, ((c.authenticate t r).run s₀).2.log = es ++ s₀.log ∧ Account.Balances 0 es ∧
      ∀ e ∈ es, e.milestone? = none := by
    refine c.leaves_authenticate t
      (P := fun s' => ∃ es, s'.log = es ++ s₀.log ∧ Account.Balances 0 es ∧
        ∀ e ∈ es, e.milestone? = none)
      r ⟨[], rfl, Account.balances_nil, List.forall_mem_nil _⟩ fun i => ?_
    rcases hv : s₀.validToken? with _ | token
    · rw [i.run_token_miss t hv]
      exact ⟨_, i.log_exchanged t s₀, Account.balances_exchange i t _,
        fun e => i.milestone?_of_mem_exchangeEvents t⟩
    · rw [i.token_hit t hv]
      exact ⟨[], rfl, Account.balances_nil, List.forall_mem_nil _⟩
  obtain ⟨es, hlog, hbalances, hnone⟩ := hfetch
  rw [Authenticator.run_call] at hcall
  have hasked : (c.authenticate t r).run s₀ = ((result, r'), s') := hcall
  rw [hasked] at hlog
  refine ⟨es ++ [.authenticating s.now r.budget], ?_,
    hbalances.append (Account.balances_authenticating _ _), ?_⟩
  · rw [List.append_assoc]
    exact hlog
  · rintro f rfl
    exact ⟨r, s₀, es, [], rfl, hnone, rfl, congrArg (·.1.1) hasked⟩

namespace Throttle

variable {h : Throttle} {c : Credential} {t : Transport} {cancellation : Option Cancellation}
  {next : Next} {r r' : Request} {s s' : Session} {response : Response}

/-- **Waiting** leaves a stretch that balances, and one milestone. -/
theorem log_pause {waited : Except Failure Unit}
    (hp : (h.pause cancellation response r).run s = (waited, s')) :
    ∃ es, s'.log = es ++ s.log ∧ Account.Balances ⟨0, 0, 0, 0, 1, 0⟩ es ∧
      ∃ time interval, es.findSome? Event.milestone? = some (.waiting time interval) := by
  obtain ⟨time, rfl⟩ := leaves_pause hp
  let backoff := response.headers.backoff h.policy.defaultInterval
  refine ⟨_, ?_,
    Account.balances_waiting s.now backoff.interval (r.budget.bind (·.remaining)) backoff,
    _, _, rfl⟩
  rw [List.cons_append, List.cons_append, ← Session.log_foldl_record]
  rfl

/-! ## Rounds and courses -/

/-- **A round that leads to another one** sends and waits once, and lowers the limit by one. -/
theorem balances_round (hc : h.authenticator = c.authenticator t)
    (hround : (h.round cancellation t.next r).run s = (.inr r', s')) :
    ∃ es, s'.log = es ++ s.log ∧ Account.Balances ⟨0, 0, 0, 1, 1, 0⟩ es ∧
      h.policy.sendLimit r.budget = h.policy.sendLimit r'.budget + 1 := by
  obtain ⟨-, left, htake, hbudget⟩ := alike_of_round hc hround
  cases rounded_of_run hround with
  | @resent response left _ s₁ r' s₂ answered throttled taken paused called =>
    obtain ⟨-, rfl⟩ := Prod.mk.inj ((t.run_next r s).symm.trans answered)
    obtain ⟨waiting, hwaiting, hwaited, -⟩ := log_pause paused
    rw [hc] at called
    obtain ⟨asking, hasking, hasked, -⟩ := c.log_call t called
    have hsent := Account.balances_sent s.position r
    refine ⟨_, Session.log_eq_append hasking (Session.log_eq_append hwaiting rfl),
      hasked.append (hwaited.append hsent), ?_⟩
    rw [hbudget]
    exact sendLimit_of_resume htake

/-- **A round that ends the call** closes its books, however many rounds there are. -/
theorem books_round (hc : h.authenticator = c.authenticator t) {outcome : Outcome}
    (hround : (h.round cancellation t.next r).run s = (.inl outcome, s')) (rounds : Nat) :
    ∃ (account : Account) (es : List Event), s'.log = es ++ s.log ∧ account.Unopened ∧
      account.Books h.authenticator (some h.policy) r.budget t s.log es rounds outcome := by
  have hsent := Account.balances_sent s.position r
  have hanswered {outcome : Outcome} {s₁ : Session}
      (answered : (t.next.run r).run s = (outcome, s₁)) :
      t.answer s.position = outcome ∧ t.delivered r s = s₁ :=
    Prod.mk.inj ((t.run_next r s).symm.trans answered)
  cases rounded_of_run hround with
  | settled answered free =>
    obtain ⟨rfl, rfl⟩ := hanswered answered
    exact ⟨_, _, rfl, ⟨rfl, rfl, rfl⟩, .of_unspent hsent (.answered rfl rfl) rfl (.inl free)⟩
  | @spent response _ _ answered throttled taken =>
    obtain ⟨hanswer, rfl⟩ := hanswered answered
    refine ⟨_, _, rfl, ⟨rfl, rfl, rfl⟩, Account.balances_spent.append hsent, ?_, Nat.le_refl 1, ?_⟩
    · exact hanswer ▸ .answered rfl rfl
    -- nothing can be taken, so that this was the last send of the limit
    · refine ⟨fun _ => ⟨decide_eq_true throttled, h.policy, rfl, ?_⟩, fun _ => rfl⟩
      exact (sendLimit_of_spent taken).symm
  | @givenUp _ _ _ f _ answered throttled taken paused =>
    obtain ⟨-, rfl⟩ := hanswered answered
    obtain ⟨waiting, hwaiting, hwaited, time, interval, hlast⟩ := log_pause paused
    obtain rfl := (passages_pause paused).2 f rfl
    have hclose : (waiting ++ [Event.sent .call s.position r]).findSome? Event.milestone? =
        some (.waiting time interval) := by rw [List.findSome?_append, hlast, Option.some_or]
    exact ⟨_, _, Session.log_eq_append hwaiting rfl, ⟨rfl, rfl, rfl⟩,
      .of_unspent (hwaited.append hsent) (.givenUp hclose rfl) rfl (.inl rfl)⟩
  | @refused _ left _ s₂ f _ _ answered throttled taken paused called =>
    obtain ⟨-, rfl⟩ := hanswered answered
    obtain ⟨waiting, hwaiting, hwaited, -⟩ := log_pause paused
    rw [hc] at called
    obtain ⟨asking, hasking, hasked, hrefused⟩ := c.log_call t called
    have hbefore : s₂.log = (waiting ++ [Event.sent .call s.position r]) ++ s.log :=
      Session.log_eq_append hwaiting rfl
    -- the send and the wait are past when the credentials are asked for
    have hlast := hrefused f rfl
    rw [hbefore, ← hc] at hlast
    exact ⟨_, _, Session.log_eq_append hasking hbefore, ⟨rfl, rfl, rfl⟩,
      .of_unspent (hasked.append (hwaited.append hsent)) (.refused hlast.behind rfl) rfl (.inl rfl)⟩

/-- **The books of a course.** By induction on the rounds; what the rounds before have entered is
added. -/
theorem books_course (hc : h.authenticator = c.authenticator t) (rounds : Nat) {course : Course}
    (hcourse : (h.course cancellation t.next rounds r).run s = (course, s')) :
    ∃ (account : Account) (es : List Event), s'.log = es ++ s.log ∧ account.Unopened ∧
      account.Books h.authenticator (some h.policy) r.budget t s.log es rounds course.outcome := by
  induction rounds generalizing r s s' course with
  | zero =>
    cases hcourse
    exact ⟨0, [], rfl, ⟨rfl, rfl, rfl⟩,
      .of_unspent Account.balances_nil (.unfollowed rfl rfl) rfl (.inl rfl)⟩
  | succ more ih =>
    rw [course_succ] at hcourse
    rcases hround : (h.round cancellation t.next r).run s with ⟨outcome | r', s₁⟩
    · rw [hround] at hcourse
      cases hcourse
      exact books_round hc hround _
    · rcases hrest : (h.course cancellation t.next more r').run s₁ with ⟨rest, s₂⟩
      simp only [hround, hrest] at hcourse
      cases hcourse
      obtain ⟨es, hlog, hbalances, hlimit⟩ := balances_round hc hround
      obtain ⟨account, es', hlog', hunopened, hbooks⟩ := ih hrest
      rw [hlog] at hbooks
      refine ⟨_, _, Session.log_eq_append hlog' hlog, hunopened.add ⟨rfl, rfl, rfl⟩,
        hbooks.behind hbalances rfl rfl ?_⟩
      rintro policy ⟨⟩
      exact hlimit

end Throttle

/-! ## Calls -/

namespace Pipeline

variable {p : Pipeline} {c : Credential} {t : Transport} {r r₁ : Request} {s s₁ : Session}

/-- **First credentials** are asked for and counted; the budget of the request is left alone. -/
theorem log_authenticate (hc : p.authenticator = c.authenticator t) {result : Except Failure Unit}
    (hopen : (p.authenticate r).run s = ((result, r₁), s₁)) :
    ∃ es, s₁.log = .counted .authenticate (.ofResult result) ::
        (es ++ [.counted .authenticate .attempt, .opened .authenticate "pipeline_send"]) ++ s.log ∧
      Account.Balances 0 es ∧ r₁.budget = r.budget ∧
      ∀ f, result = .error f → Account.RefusedIn p.authenticator s.log
        (es ++ [.counted .authenticate .attempt, .opened .authenticate "pipeline_send"]) f := by
  rw [run_authenticate] at hopen
  generalize hs₀ : (s.record (.opened .authenticate "pipeline_send")).record
    (.counted .authenticate .attempt) = s₀ at hopen
  rcases hcall : (p.authenticator.call r).run s₀ with ⟨⟨result', r'⟩, s'⟩
  rw [hcall] at hopen
  cases hopen
  have hbudget := (c.alike_call t r s₀).2
  rw [hc] at hcall
  obtain ⟨es, hlog, hbalances, hrefused⟩ := c.log_call t hcall
  rw [hcall] at hbudget
  subst hs₀
  refine ⟨es, ?_, hbalances, hbudget, fun f hf => ?_⟩
  · rw [List.cons_append, List.append_assoc]
    exact congrArg _ hlog
  · rw [hc]
    exact Account.RefusedIn.behind (hrefused f hf)

/-- **The books of a call** of a pipeline without interceptors of the user. Its first credentials
are counted once when they are asked for, and once when they are granted, however often it is sent
then, or refused, and then nothing is sent. Token requests and waits are counted, each of them and
nothing else; by the way in which the call ends, there are as many sends as waits or one more. It is
unfinished only if it has been sent as often as there are rounds. A budget that is spent is counted
as a resend that failed, which happens just when this is why a throttled answer is the outcome. -/
theorem send_is_booked (c : Credential) (t : Transport) (compresses : Bool)
    (retries : Option RetryPolicy) (defaults : Headers) (rounds : Nat) (r : Request) (s : Session) :
    let p : Pipeline := ⟨c.authenticator t, compresses, retries, [], defaults⟩
    let run := (p.send t rounds r).run s
    ∃ (account : Account) (es : List Event), run.2.log = es ++ s.log ∧
      account.asked = 1 ∧
      (account.granted = 1 ∧ account.refused = 0 ∨
        account.granted = 0 ∧ account.refused = 1 ∧ account.sends = 0 ∧ account.waits = 0) ∧
      account.Books p.authenticator retries r.budget t s.log es rounds run.1 := by
  intro p run
  rcases hopen : (p.authenticate (p.prepare r)).run s with ⟨⟨f | _, r₁⟩, s₁⟩
  · obtain ⟨es, hlog, hbalances, -, hrefused⟩ := log_authenticate rfl hopen
    have hrun : run = (.failure f, s₁) := run_send_refused hopen rounds
    rw [hrun]
    exact ⟨_, _, hlog, rfl, .inr ⟨rfl, rfl, rfl, rfl⟩, .of_unspent (hbalances.around_refused _)
      (.refused ((hrefused f rfl).cons rfl) rfl) rfl (.inl rfl)⟩
  · obtain ⟨es, hlog, hbalances, hbudget, -⟩ := log_authenticate rfl hopen
    have hgranted := hbalances.around_granted "pipeline_send"
    have hrun : run = _ := run_send_opened hopen rounds
    rw [run_chain_interceptors] at hrun
    cases retries with
    -- without a policy the answer to the only send is the outcome, throttled or not
    | none =>
      have hsent := Account.balances_sent s₁.position (p.compressed r₁)
      have hanswered : run = (t.answer s₁.position, t.delivered (p.compressed r₁) s₁) := hrun
      rw [hanswered]
      exact ⟨_, _, Session.log_eq_append rfl hlog, rfl, .inl ⟨rfl, rfl⟩,
        .of_unspent (hsent.append hgranted) (.answered rfl rfl) rfl (.inr rfl)⟩
    | some policy =>
      let h : Throttle := ⟨c.authenticator t, policy⟩
      rcases hcourse : (h.course (p.compressed r₁).cancellation t.next rounds (p.compressed r₁)).run
        (s₁.record (.opened .rateLimitRetry "intercept")) with ⟨course, s₂⟩
      have hended : run = (course.outcome, s₂) := by
        rw [hrun]
        exact congrArg (Prod.map Course.outcome id) hcourse
      obtain ⟨account, es', hlog', hunopened, hbooks⟩ := Throttle.books_course rfl rounds hcourse
      have hbefore := (Account.balances_opened .rateLimitRetry "intercept").append hgranted
      have hentered : (s₁.record (.opened .rateLimitRetry "intercept")).log =
          [.opened .rateLimitRetry "intercept"] ++ _ ++ s.log := Session.log_eq_append rfl hlog
      rw [hentered] at hbooks
      rw [hended]
      refine ⟨_, _, Session.log_eq_append hlog' hentered, ?_, .inl ⟨?_, ?_⟩,
        hbooks.behind hbefore rfl rfl ?_⟩
      · exact congrArg (· + 1) hunopened.asked
      · exact congrArg (· + 1) hunopened.granted
      · exact hunopened.refused
      -- authenticating and compressing leave the budget alone
      · rintro _ ⟨⟩
        have hbudget' : r.budget = (p.compressed r₁).budget :=
          hbudget.symm.trans (p.budget_compressed r₁).symm
        rw [hbudget']
        exact (add_zero _).symm

/-- Under a policy of one resend, a call that is always turned away is counted to resend and to fail
to. -/
example :
    let p : Pipeline :=
      ⟨Credential.noAuth.authenticator .throttling, false, some ⟨⟨1000000000⟩, some 1⟩, [], .empty⟩
    let es := ((p.send .throttling 3 .ofItems).run (.start 0)).2.log
    (Progress.all.map (Stage.authenticate.tally · es),
      Progress.all.map (Stage.rateLimitRetry.tally · es)) =
      ([1, 1, 0], [1, 0, 1]) := by decide

end Pipeline

end Outbound
