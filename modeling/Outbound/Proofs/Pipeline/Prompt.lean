import Outbound.Proofs.Pipeline.Bearing
import Outbound.Proofs.Pipeline.Growth
import Outbound.Proofs.Token.Sharing

/-!
# Token requests that fail

A pipeline whose credentials come from an issuer sends token requests and calls over one transport.
Only answers to calls are ever dealt with as throttled answers: a token request that fails ends the
call for which credentials were asked, at once and with that failure.

* **asking** — `AskedFor`: a token request is that of the issuer, and follows directly on
  credentials' having been asked for;
* **stretches** — a stretch of a session is `Smooth` if every token request in it brings a token,
  and `Broken` if the last thing in it is one that does not. What happens behind a smooth stretch is
  as smooth or as broken as it is on its own (`Smooth.trans`, `Broken.behind`);
* **promptness** — an action is `Prompt` if it leads through a smooth stretch, or through a broken
  one and fails with this very failure. Asking for credentials is (`prompt_call`);
* **run** — and so are a round, a course and a call (`prompt_round`, `prompt_course`,
  `prompt_send`), as long as the interceptors of the user are `Reserved` and leave token requests to
  the issuer.
-/

namespace Outbound

open Outbound.Time

/-! ## Asking -/

/-- **As it was asked for.** A token request is the one of the issuer, and since credentials were
asked for nothing was sent and no wait began: there is one for each time that they are asked for, at
most. -/
def AskedFor (i : Issuer) (e : Event) (past : List Event) : Prop :=
  ∀ q x, e = .sent .token q x → x = i.request ∧
    ∃ during time budget before, past = during ++ .authenticating time budget :: before ∧
      ∀ e' ∈ during, e'.isAside

/-- **The failure of an event**, if it is a token request that brings no token. -/
def Event.failed? (t : Transport) : Event → Option Failure
  | .sent .token q _ =>
    match t.tokenReply q with
    | .ok _ => none
    | .error f => some f
  | _ => none

theorem AskedFor.append {i : Issuer} {e : Event} {past log : List Event} (h : AskedFor i e past) :
    AskedFor i e (past ++ log) := by
  intro q x he
  obtain ⟨hx, during, time, budget, before, rfl, hduring⟩ := h q x he
  exact ⟨hx, during, time, budget, before ++ log, by simp, hduring⟩

/-- What is no token request need not have been asked for. -/
theorem askedFor_of_no_token {i : Issuer} {e : Event} {past : List Event}
    (h : e.isSendFor .token = false) : AskedFor i e past := by
  rintro q x rfl
  cases h

theorem Event.failed?_of_no_token {t : Transport} {e : Event} (h : e.isSendFor .token = false) :
    e.failed? t = none := by
  cases e with
  | sent purpose =>
    cases purpose with
    | call => rfl
    | token => cases h
  | _ => rfl

/-! ## Stretches -/

namespace Session

/-- **A smooth stretch**: all token requests were asked for and brought a token. -/
def Smooth (i : Issuer) (t : Transport) (s s' : Session) : Prop :=
  ∃ new, s'.log = new ++ s.log ∧ Throughout (AskedFor i) new ∧ ∀ e ∈ new, e.failed? t = none

/-- **A broken stretch**: the last of the token requests failed, after which nothing was sent, asked
for or waited for. It is the time at which the reply to this request came. -/
def Broken (i : Issuer) (t : Transport) (f : Failure) (s s' : Session) : Prop :=
  ∃ later q earlier, s'.log = (later ++ .sent .token q i.request :: earlier) ++ s.log ∧
    (∀ e ∈ later, e.isAside) ∧
    Throughout (AskedFor i) (.sent .token q i.request :: earlier) ∧
    (∀ e ∈ earlier, e.failed? t = none) ∧ t.tokenReply q = .error f ∧ s'.now = t.arrival q

variable {i : Issuer} {t : Transport} {f : Failure} {s s₁ s₂ : Session}

/-- **Without token requests** a stretch is smooth. -/
theorem Smooth.of_grows (h : s.Grows (fun e => e.isSendFor .token = false) s₁) :
    s.Smooth i t s₁ := by
  obtain ⟨new, hlog, hnew⟩ := h
  refine ⟨new, hlog, ?_, fun e he => Event.failed?_of_no_token (hnew e he)⟩
  exact (throughout_of_forall hnew).mono fun _ _ => askedFor_of_no_token

/-- **One more stretch**: what was asked for within the later one was asked for within both. -/
theorem Smooth.trans (h₁ : s.Smooth i t s₁) (h₂ : s₁.Smooth i t s₂) : s.Smooth i t s₂ := by
  obtain ⟨new₁, hlog₁, hasked₁, hok₁⟩ := h₁
  obtain ⟨new₂, hlog₂, hasked₂, hok₂⟩ := h₂
  refine ⟨new₂ ++ new₁, ?_, ?_, ?_⟩
  · exact Session.log_eq_append hlog₂ hlog₁
  · exact throughout_append.mpr ⟨hasked₂.mono fun _ _ h => h.append, hasked₁⟩
  · exact List.forall_mem_append.mpr ⟨hok₂, hok₁⟩

theorem Smooth.record {e : Event} (h : s.Smooth i t s₁) (he : e.isSendFor .token = false) :
    s.Smooth i t (s₁.record e) := h.trans (.of_grows (.record (.refl s₁) he))

/-- **A broken stretch behind a smooth one.** -/
theorem Broken.behind (h₁ : s.Smooth i t s₁) (h₂ : s₁.Broken i t f s₂) : s.Broken i t f s₂ := by
  obtain ⟨new, hlog, hasked, hok⟩ := h₁
  obtain ⟨later, q, earlier, hlog', hlater, hasked', hok', hreply, hnow⟩ := h₂
  refine ⟨later, q, earlier ++ new, ?_, hlater, ?_, ?_, hreply, hnow⟩
  · simp [hlog', hlog]
  · exact throughout_append.mpr ⟨hasked'.mono fun _ _ h => h.append, hasked⟩
  · exact List.forall_mem_append.mpr ⟨hok', hok⟩

/-- What happens aside mends nothing. -/
theorem Broken.record {e : Event} (h : s.Broken i t f s₁) (he : e.isAside) :
    s.Broken i t f (s₁.record e) := by
  obtain ⟨later, q, earlier, hlog, hlater, hrest⟩ := h
  exact ⟨e :: later, q, earlier, congrArg (e :: ·) hlog, List.forall_mem_cons.mpr ⟨he, hlater⟩,
    hrest⟩

/-- **Prompt**: a stretch that is smooth, or one that is broken and ends with its failure. -/
def Prompt (i : Issuer) (t : Transport) (fails : Failure → Prop) (s s' : Session) : Prop :=
  s.Smooth i t s' ∨ ∃ f, fails f ∧ s.Broken i t f s'

variable {fails fails' : Failure → Prop}

/-- **Promptness behind a smooth stretch.** -/
theorem Prompt.behind (h₁ : s.Smooth i t s₁) (h₂ : s₁.Prompt i t fails s₂) :
    s.Prompt i t fails s₂ := by
  rcases h₂ with hsmooth | ⟨f, hf, hbroken⟩
  · exact .inl (h₁.trans hsmooth)
  · exact .inr ⟨f, hf, hbroken.behind h₁⟩

theorem Prompt.mono (h : s.Prompt i t fails s₁) (hfails : ∀ f, fails f → fails' f) :
    s.Prompt i t fails' s₁ :=
  h.imp_right fun ⟨f, hf, hbroken⟩ => ⟨f, hfails f hf, hbroken⟩

theorem Prompt.record {e : Event} (h : s.Prompt i t fails s₁) (he : e.isAside) :
    s.Prompt i t fails (s₁.record e) := by
  rcases h with hsmooth | ⟨f, hf, hbroken⟩
  · exact .inl (hsmooth.record (Event.isSendFor_of_not_isSend he.2 _))
  · exact .inr ⟨f, hf, hbroken.record he⟩

/-- **What has not failed** was smooth. -/
theorem Prompt.smooth (h : s.Prompt i t fails s₁) (hfails : ∀ f, ¬ fails f) : s.Smooth i t s₁ :=
  h.resolve_right fun ⟨f, hf, _⟩ => hfails f hf

/-- **A broken stretch** has asked for credentials. -/
theorem Broken.authentications_lt (h : s.Broken i t f s₁) :
    s.authentications < s₁.authentications := by
  obtain ⟨later, q, earlier, hlog, -, hasked, -⟩ := h
  obtain ⟨-, during, time, budget, before, rfl, -⟩ := hasked.1 q i.request rfl
  have hone : (Event.authenticating time budget).isAuthenticating = true := rfl
  simp only [authentications, hlog, List.countP_append, List.countP_cons, hone, if_true]
  omega

end Session

/-! ## Asking for credentials -/

section Call

variable {i : Issuer} {t : Transport} {s s' : Session} {r r' : Request}

/-- What an exchange leaves behind was asked for, right before. -/
theorem Issuer.askedFor_exchangeEvents (i : Issuer) (t : Transport) (p : Position) (time : Instant)
    (budget : Option RetryBudget) :
    Throughout (AskedFor i) (i.exchangeEvents t p ++ [.authenticating time budget]) := by
  refine ⟨askedFor_of_no_token rfl, ?_, askedFor_of_no_token rfl, askedFor_of_no_token rfl,
    askedFor_of_no_token rfl, trivial⟩
  rintro q x ⟨⟩
  refine ⟨rfl, [.counted .tokenRequest .attempt, .opened .tokenRequest "iam_token"], time, budget,
    [], rfl, fun e he => ?_⟩
  simp only [List.mem_cons, List.not_mem_nil, or_false] at he
  rcases he with rfl | rfl <;> exact ⟨rfl, rfl⟩

/-- **Asking an issuer for credentials** is prompt: it fails as the token request does. -/
theorem prompt_call {result : Except Failure Unit}
    (hcall : (((Credential.iam i).authenticator t).call r).run s = ((result, r'), s')) :
    s.Prompt i t (result = .error ·) s' := by
  let s₀ := s.record (.authenticating s.now r.budget)
  let before : List Event := [.counted .tokenRequest .attempt, .opened .tokenRequest "iam_token",
    .authenticating s.now r.budget]
  have hbefore : ∀ e ∈ before, e.failed? t = none := by simp [before, Event.failed?]
  have hlog : (i.exchanged t s₀).log =
      (i.exchangeEvents t s₀.position ++ [.authenticating s.now r.budget]) ++ s.log := by
    rw [i.log_exchanged, List.append_assoc]
    rfl
  have hasked := i.askedFor_exchangeEvents t s₀.position s.now r.budget
  rcases Credential.call_iam_cases i t r s with ⟨_, -, -, hrun⟩ | ⟨token, hreply, hrun⟩ |
    ⟨f, hreply, hrun⟩
  · obtain ⟨-, rfl⟩ := Prod.mk.inj (hcall.symm.trans hrun)
    exact .inl (.of_grows (.record (.refl s) rfl))
  · obtain ⟨-, rfl⟩ := Prod.mk.inj (hcall.symm.trans hrun)
    refine .inl ⟨_, hlog, hasked, List.forall_mem_cons.mpr ⟨rfl, ?_⟩⟩
    refine List.forall_mem_cons.mpr ⟨?_, hbefore⟩
    simp only [Event.failed?]
    rw [hreply]
  · obtain ⟨hresult, rfl⟩ := Prod.mk.inj (hcall.symm.trans hrun)
    exact .inr ⟨f, congrArg Prod.fst hresult, [_], s₀.position, before, hlog,
      List.forall_mem_singleton.mpr ⟨rfl, rfl⟩, hasked.2, hbefore, hreply, i.now_exchanged t s₀⟩

end Call

/-! ## Reserved interceptors -/

/-- **The rest of a way is reserved** if it sends no token requests of its own. -/
def Next.Reserved (next : Next) : Prop := next.Adds fun e => e.isSendFor .token = false

/-- **Reserved interceptors** send no token requests of their own. -/
def Interceptor.Reserved (i : Interceptor) : Prop := i.Adds fun e => e.isSendFor .token = false

/-! ## Rounds and courses -/

section Course

variable {i : Issuer} {t : Transport} {throttle : Throttle} {cancellation : Option Cancellation}
  {next : Next} {r : Request} {s s' : Session}

/-- **A round** is prompt: it ends the call as the token request fails. -/
theorem prompt_round
    (ha : throttle.authenticator = (Credential.iam i).authenticator t) (hnext : next.Reserved)
    {result : Outcome ⊕ Request}
    (hround : (throttle.round cancellation next r).run s = (result, s')) :
    s.Prompt i t (fun f => result = .inl (.failure f)) s' := by
  have hanswered {outcome : Outcome} {s₁ : Session} (hn : (next.run r).run s = (outcome, s₁)) :
      s.Smooth i t s₁ := .of_grows (hnext.of_run hn)
  have hpaused {response : Response} {left : Request} {s₁ s₂ : Session}
      {waited : Except Failure Unit}
      (hp : (throttle.pause cancellation response left).run s₁ = (waited, s₂)) :
      s₁.Smooth i t s₂ :=
    .of_grows ((Throttle.grows_pause hp).1.mono fun _ h => Event.isSendFor_of_not_isSend h _)
  cases Throttle.rounded_of_run hround with
  | settled hn => exact .inl (hanswered hn)
  | spent hn => exact .inl (((hanswered hn).record rfl).record rfl)
  | givenUp hn _ _ hp => exact .inl ((hanswered hn).trans (hpaused hp))
  | refused hn _ _ hp hc =>
    rw [ha] at hc
    refine .behind ((hanswered hn).trans (hpaused hp)) ((prompt_call hc).mono ?_)
    rintro f ⟨⟩
    rfl
  | resent hn _ _ hp hc =>
    rw [ha] at hc
    have hsmooth := (prompt_call hc).smooth fun _ => nofun
    exact .inl (((hanswered hn).trans (hpaused hp)).trans hsmooth)

/-- **A course** is prompt. By induction on the rounds. -/
theorem prompt_course
    (ha : throttle.authenticator = (Credential.iam i).authenticator t) (hnext : next.Reserved)
    (rounds : Nat) {course : Course}
    (hcourse : (throttle.course cancellation next rounds r).run s = (course, s')) :
    s.Prompt i t (course.outcome = .failure ·) s' := by
  induction rounds generalizing r s course with
  | zero =>
    cases hcourse
    exact .inl (.of_grows (.refl _))
  | succ more ih =>
    rw [Throttle.course_succ] at hcourse
    rcases hr : (throttle.round cancellation next r).run s with ⟨outcome | r₁, s₁⟩
    · rw [hr] at hcourse
      cases hcourse
      exact (prompt_round ha hnext hr).mono fun _ => Sum.inl.inj
    · rcases hrest : (throttle.course cancellation next more r₁).run s₁ with ⟨rest, s₂⟩
      simp only [hr, hrest] at hcourse
      cases hcourse
      have hsmooth := (prompt_round ha hnext hr).smooth fun _ => nofun
      have hprompt := ih hrest
      exact .behind hsmooth hprompt

end Course

/-! ## Calls -/

namespace Pipeline

variable {p : Pipeline} {i : Issuer} {t : Transport} {s s' : Session} {r r' : Request}

/-- **The first credentials** are asked for before any call is sent. -/
theorem prompt_authenticate (ha : p.authenticator = (Credential.iam i).authenticator t)
    {result : Except Failure Unit} (hrun : (p.authenticate r).run s = ((result, r'), s')) :
    s.authentications < s'.authentications ∧ s'.calls = s.calls ∧
      s.Prompt i t (result = .error ·) s' := by
  rw [run_authenticate, ha] at hrun
  let s₀ := (s.record (.opened .authenticate "pipeline_send")).record
    (.counted .authenticate .attempt)
  rcases hcall : (((Credential.iam i).authenticator t).call r).run s₀ with ⟨⟨result₁, r₁⟩, s₁⟩
  rw [hcall] at hrun
  cases hrun
  have hgrows := (Issuer.idle_call hcall).2
  refine ⟨?_, ?_, ?_⟩
  · have hasked : (s₀.record (.authenticating s₀.now r.budget)).authentications =
        s.authentications + 1 := by simp [s₀, Event.isAuthenticating]
    have hle := hgrows.authentications_le
    rw [hasked] at hle
    rw [Session.authentications_record]
    exact Nat.lt_add_right _ hle
  · refine Session.Grows.calls_eq (.record (.trans ?_ hgrows) rfl)
    exact .record (.record (.record (.refl s) rfl) rfl) rfl
  · have h₀ : s.Smooth i t s₀ := .record (.record (.of_grows (.refl s)) rfl) rfl
    exact (Session.Prompt.behind h₀ (prompt_call hcall)).record ⟨rfl, rfl⟩

/-- **A call** is prompt. If it fails when credentials are asked for the first time, no call has
been sent. -/
theorem prompt_send (ha : p.authenticator = (Credential.iam i).authenticator t)
    (hcustom : ∀ c ∈ p.custom, c.Reserved) (rounds : Nat) {outcome : Outcome}
    (hrun : (p.send t rounds r).run s = (outcome, s')) :
    s.Prompt i t (fun f => outcome = .failure f ∧
      (s'.authentications = s.authentications + 1 → s'.calls = s.calls)) s' := by
  have hrest : (chain t (p.custom.map Interceptor.recorded)).Reserved := by
    refine adds_chain t (fun _ _ => rfl) fun j hj => ?_
    obtain ⟨c, hc, rfl⟩ := List.mem_map.mp hj
    exact Interceptor.Adds.recorded (hcustom c hc) fun _ _ => rfl
  cases sent_of_run hrun with
  | refused hopen =>
    obtain ⟨-, hcalls, hprompt⟩ := prompt_authenticate ha hopen
    refine hprompt.mono ?_
    rintro f ⟨⟩
    exact ⟨rfl, fun _ => hcalls⟩
  | @passed r₁ s₁ _ _ hopen hanswered =>
    have hsmooth := (prompt_authenticate ha hopen).2.2.smooth fun _ => nofun
    exact .inl (hsmooth.trans (.of_grows (hrest.of_run hanswered)))
  | @followed r₁ s₁ policy course _ hopen hcourse =>
    obtain ⟨hlt, -, hprompt⟩ := prompt_authenticate ha hopen
    have hsmooth : s.Smooth i t (s₁.record (.opened .rateLimitRetry "intercept")) :=
      (hprompt.smooth fun _ => nofun).record rfl
    have hauth : (⟨p.authenticator, policy⟩ : Throttle).authenticator = _ := ha
    rcases prompt_course hauth hrest rounds hcourse with hsmooth' | ⟨f, hf, hbroken⟩
    · exact .inl (hsmooth.trans hsmooth')
    · refine .inr ⟨f, ⟨hf, fun hone => ?_⟩, hbroken.behind hsmooth⟩
      -- credentials were asked for before the first send, and again before the resend
      have hagain : s₁.authentications < s'.authentications := by
        simpa [Event.isAuthenticating] using hbroken.authentications_lt
      omega

/-- **Token requests and throttled calls** do not get in each other's way. Every token request of a
call is the one of the issuer, whatever the pipeline does to the call, and follows directly on
credentials' having been asked for, so that it is not sent twice. If one fails, for whatever reason,
the call is over when its reply comes: nothing is sent or waited for after it, and the outcome is
its failure. If it was sent for the first credentials of the call, no call was sent at all. -/
theorem failed_exchange_ends_call (i : Issuer) (t : Transport) (compresses : Bool)
    (retries : Option RetryPolicy) (custom : List Interceptor) (defaults : Headers)
    (hcustom : ∀ c ∈ custom, c.Reserved) (rounds : Nat) (r : Request) (s : Session) :
    let p : Pipeline := ⟨(Credential.iam i).authenticator t, compresses, retries, custom, defaults⟩
    let run := (p.send t rounds r).run s
    ∃ new, run.2.log = new ++ s.log ∧
      ∀ later q x earlier, new = later ++ .sent .token q x :: earlier →
        (x = i.request ∧ ∃ during time budget before,
          earlier = during ++ .authenticating time budget :: before ∧ ∀ e ∈ during, e.isAside) ∧
        ∀ f, t.tokenReply q = .error f →
          (∀ e ∈ later, e.isAside) ∧ run.1 = .failure f ∧ run.2.now = t.arrival q ∧
          (p.execute t rounds r).run s = run ∧
          (run.2.authentications = s.authentications + 1 → run.2.calls = s.calls) := by
  intro p run
  have hfailed {q : Position} {x : Request} {f : Failure} (h : t.tokenReply q = .error f) :
      (Event.sent .token q x).failed? t = some f := by rw [Event.failed?, h]
  have hsend : (p.send t rounds r).run s = (run.1, run.2) := rfl
  rcases prompt_send rfl hcustom rounds hsend with ⟨new, hlog, hasked, hok⟩ |
    ⟨f, ⟨houtcome, hfirst⟩, later, q, earlier, hlog, hlater, hasked, hok, hreply, hnow⟩
  -- no token request has failed
  · refine ⟨new, hlog, fun later q x earlier hsplit => ⟨?_, fun f hf => ?_⟩⟩
    · exact throughout_iff.mp hasked later _ earlier hsplit q x rfl
    · have hnone := hok (.sent .token q x) (hsplit ▸ List.mem_append_right _ List.mem_cons_self)
      exact absurd ((hfailed hf).symm.trans hnone) nofun
  -- one has failed, and there is no other one
  · have hnone : ∀ e ∈ later, e.failed? t = none := fun e he =>
      Event.failed?_of_no_token (Event.isSendFor_of_not_isSend (hlater e he).2 _)
    have hall : Throughout (AskedFor i) (later ++ .sent .token q i.request :: earlier) := by
      refine throughout_append.mpr ⟨(throughout_of_forall hlater).mono fun e past he => ?_, hasked⟩
      exact askedFor_of_no_token (Event.isSendFor_of_not_isSend he.2 _)
    refine ⟨_, hlog, fun later' q' x' earlier' hsplit => ⟨?_, fun f' hf' => ?_⟩⟩
    · exact throughout_iff.mp hall later' _ earlier' hsplit q' x' rfl
    · have hsome : (Event.sent .token q' x').failed? t ≠ none := by
        rw [hfailed hf']
        nofun
      obtain ⟨rfl, hsent, rfl⟩ := split_unique hsplit.symm hsome
        (fun e he => not_not_intro (hnone e he)) (fun e he => not_not_intro (hok e he))
      cases hsent
      obtain rfl : f' = f := Except.error.inj (hf'.symm.trans hreply)
      refine ⟨hlater, houtcome, hnow, ?_, hfirst⟩
      change (run.1.andThen Response.successful, run.2) = run
      rw [houtcome]
      exact Prod.ext houtcome.symm rfl

/-- **Turned away twice.** A call that is to come back after two hours does so without a token,
since the one for an hour is not valid any more. When the token request is turned away for two hours
as well, the call is over: it fails at that very time. An interceptor has had it sent twice before
that. -/
theorem failed_exchange_ends_call_turned_away :
    let away : Reply :=
      ⟨⟨0⟩, .ok ⟨.tooManyRequests, Headers.empty.insert .retryAfter (.ofText "7200"), []⟩⟩
    let t : Transport := fun n => if n = 0 then Transport.issuing 0 else away
    let custom : List Interceptor := [.preparing "tag" (·.withHeader .accept ⟨[0x2A], false⟩),
      .amending "cut" ({ · with body := [] }), .repeating "twice" 2]
    let p : Pipeline :=
      ⟨(Credential.iam .ofKey).authenticator t, true, some ⟨⟨1000000000⟩, none⟩, custom, .empty⟩
    let run := (p.send t 5 .ofItems).run (.start 0)
    (∃ f, run.1 = .failure f) ∧ run.2.now = 7201000000000 ∧ run.2.calls.length = 2 := by
  intro away t custom p run
  let q : Position := ⟨7201000000000, 3, some 1000000000⟩
  have hcustom : ∀ c ∈ custom, c.Reserved :=
    List.forall_mem_cons.mpr ⟨Interceptor.adds_preparing _,
      List.forall_mem_cons.mpr ⟨Interceptor.adds_amending _,
        List.forall_mem_singleton.mpr (Interceptor.adds_repeating 2)⟩⟩
  have hreply : ∃ f, t.tokenReply q = .error f := by
    have hnone : (t.tokenReply q).toOption = none := by decide +kernel
    rcases hq : t.tokenReply q with f | token
    · exact ⟨f, rfl⟩
    · rw [hq] at hnone
      cases hnone
  obtain ⟨hsent, hcalls⟩ : .sent .token q Issuer.ofKey.request ∈ run.2.log ∧
      run.2.calls.length = 2 := by decide +kernel
  have harrival : t.arrival q = 7201000000000 := by decide +kernel
  have hends := failed_exchange_ends_call .ofKey t true (some ⟨⟨1000000000⟩, none⟩) custom .empty
    hcustom 5 .ofItems (.start 0)
  -- what the run comes to has been worked out above, and is not to be worked out again
  extract_lets at hends
  clear_value run
  obtain ⟨new, hlog, htokens⟩ := hends
  rw [hlog, Session.start, List.append_nil] at hsent
  obtain ⟨later, earlier, hsplit⟩ := List.append_of_mem hsent
  obtain ⟨f, hf⟩ := hreply
  obtain ⟨-, hfailure, hnow, -⟩ := (htokens later q _ earlier hsplit).2 f hf
  exact ⟨⟨f, hfailure⟩, hnow.trans harrival, hcalls⟩

end Pipeline

end Outbound
