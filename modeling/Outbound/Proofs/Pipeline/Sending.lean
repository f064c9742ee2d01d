import Outbound.Pipeline.Assembly
import Outbound.Proofs.Throttle.Limit

/-!
# Sending through a pipeline

What a pipeline does before the first send of a call that follows throttled answers, and how the
call goes from there if there are no interceptors of the user.

* **opening** — `run_authenticate` asks for the first credentials, `run_chain_interceptors` leads
  from there into the course of the call, behind which the interceptors of the user come; nothing on
  this way touches the budget or the cancellation. `sent_of_run` is the inversion of a call;
* **calls** — from there on it is a course (`course_of_send`), which says how often the request is
  sent, when credentials are asked for, how long the call waits, and which outcome it has.
-/

namespace Outbound

open Outbound.Time

/-! ## What compression leaves alone -/

namespace Request

variable (r : Request)

/-- Only headers and body are touched. -/
theorem exists_compress_eq : ∃ headers body, r.compress = { r with headers, body } := by
  unfold compress
  split
  · exact ⟨_, _, rfl⟩
  · split <;> exact ⟨_, _, rfl⟩

@[simp] theorem method_compress : r.compress.method = r.method := by
  obtain ⟨_, _, h⟩ := r.exists_compress_eq
  rw [h]

@[simp] theorem url_compress : r.compress.url = r.url := by
  obtain ⟨_, _, h⟩ := r.exists_compress_eq
  rw [h]

@[simp] theorem budget_compress : r.compress.budget = r.budget := by
  obtain ⟨_, _, h⟩ := r.exists_compress_eq
  rw [h]

@[simp] theorem cancellation_compress : r.compress.cancellation = r.cancellation := by
  obtain ⟨_, _, h⟩ := r.exists_compress_eq
  rw [h]

/-- Of the headers, only those that are about the body. -/
theorem values_compress_of_ne {name : HeaderName} (hencoding : name ≠ .contentEncoding)
    (hlength : name ≠ .contentLength) : r.compress.headers.values name = r.headers.values name := by
  unfold compress
  split
  · rfl
  · split
    · rw [Headers.values_erase_of_ne hlength, Headers.values_insert_of_ne hencoding]
    · rfl

end Request

namespace Pipeline

variable (p : Pipeline)

/-- **The first credentials** are asked for by the authenticator of the pipeline, and counted. -/
theorem run_authenticate (r : Request) (s : Session) :
    (p.authenticate r).run s =
      match (p.authenticator.call r).run ((s.record (.opened .authenticate "pipeline_send")).record
        (.counted .authenticate .attempt)) with
      | ((result, r'), s') =>
        ((result, r'), s'.record (.counted .authenticate (.ofResult result))) := rfl

/-- The request as the course of a call begins with it. -/
def compressed (r : Request) : Request := if p.compresses then r.compress else r

theorem budget_compressed (r : Request) : (p.compressed r).budget = r.budget := by
  unfold compressed
  split
  · exact r.budget_compress
  · rfl

theorem cancellation_compressed (r : Request) :
    (p.compressed r).cancellation = r.cancellation := by
  unfold compressed
  split
  · exact r.cancellation_compress
  · rfl

variable {p} {policy : RetryPolicy}

/-- **The way of a request** with interceptors of the user, who come last: compression is over when
they are entered, and throttled answers are dealt with around them. -/
theorem run_chain_interceptors (t : Transport) (rounds : Nat) (r : Request) :
    (chain t (p.interceptors rounds)).run r =
      let rest := chain t (p.custom.map Interceptor.recorded)
      match p.throttle? with
      | some h => (h.interceptor rounds).intercept (p.compressed r) rest
      | none => rest.run (p.compressed r) := by
  rw [interceptors, compressed]
  cases p.throttle? <;> cases p.compresses <;> rfl

/-- **The way of a request**: compression, the treatment of throttled answers, the transport. -/
theorem chain_interceptors (hr : p.retries = some policy) (hc : p.custom = []) (t : Transport)
    (rounds : Nat) (r : Request) :
    (chain t (p.interceptors rounds)).run r =
      ((⟨p.authenticator, policy⟩ : Throttle).interceptor rounds).intercept (p.compressed r)
        t.next := by
  rw [run_chain_interceptors, throttle?, hr, hc]
  rfl

variable (p) in
/-- **What a call comes to**, and in which session, with all that has led to it. -/
inductive Sent (t : Transport) (rounds : Nat) (r : Request) (s : Session) :
    Outcome → Session → Prop
  | refused {f r₁ s₁} (opened : (p.authenticate (p.prepare r)).run s = ((.error f, r₁), s₁)) :
      Sent t rounds r s (.failure f) s₁
  | passed {r₁ s₁ outcome s₂}
      (opened : (p.authenticate (p.prepare r)).run s = ((.ok (), r₁), s₁))
      (answered : ((chain t (p.custom.map Interceptor.recorded)).run (p.compressed r₁)).run s₁ =
        (outcome, s₂)) :
      Sent t rounds r s outcome s₂
  | followed {r₁ s₁ policy course s₂}
      (opened : (p.authenticate (p.prepare r)).run s = ((.ok (), r₁), s₁))
      (taken : ((⟨p.authenticator, policy⟩ : Throttle).course r₁.cancellation
        (chain t (p.custom.map Interceptor.recorded)) rounds (p.compressed r₁)).run
        (s₁.record (.opened .rateLimitRetry "intercept")) = (course, s₂)) :
      Sent t rounds r s course.outcome s₂

/-- **Every call** comes to one of these. -/
theorem sent_of_run {t : Transport} {rounds : Nat} {r : Request} {s s' : Session}
    {outcome : Outcome} (hrun : (p.send t rounds r).run s = (outcome, s')) :
    p.Sent t rounds r s outcome s' := by
  rcases hopen : (p.authenticate (p.prepare r)).run s with ⟨⟨f | _, r₁⟩, s₁⟩
  · rw [send, Act.run_bind, hopen] at hrun
    cases hrun
    exact .refused hopen
  rw [send, Act.run_bind, hopen] at hrun
  simp only [run_chain_interceptors, throttle?] at hrun
  rcases hr : p.retries with _ | policy
  · rw [hr] at hrun
    exact .passed hopen hrun
  · rw [hr] at hrun
    simp only [Option.map_some, Throttle.run_interceptor, cancellation_compressed] at hrun
    rcases hcourse : ((⟨p.authenticator, policy⟩ : Throttle).course r₁.cancellation
      (chain t (p.custom.map Interceptor.recorded)) rounds (p.compressed r₁)).run
      (s₁.record (.opened .rateLimitRetry "intercept")) with ⟨course, s₂⟩
    rw [hcourse] at hrun
    cases hrun
    exact .followed hopen hcourse

/-- **A call of a pipeline**, once the first credentials are there. -/
theorem run_send (hr : p.retries = some policy) (hc : p.custom = []) (t : Transport) (rounds : Nat)
    {r r' : Request} {s s' : Session}
    (ha : (p.authenticate (p.prepare r)).run s = ((.ok (), r'), s')) :
    (p.send t rounds r).run s =
      Prod.map Course.outcome id
        (((⟨p.authenticator, policy⟩ : Throttle).course r'.cancellation t.next rounds
          (p.compressed r')).run (s'.record (.opened .rateLimitRetry "intercept"))) := by
  rw [send, Act.run_bind, ha]
  simp only [chain_interceptors hr hc, Throttle.interceptor, cancellation_compressed, Act.run_bind,
    Act.run_record, Act.run_pure]
  rfl

/-- **A call is a course** that begins when the first credentials are there, with the budget of the
request that was handed in. -/
theorem course_of_send (hr : p.retries = some policy) (hc : p.custom = [])
    (hd : p.authenticator.Discreet) (ho : p.authenticator.Obliging) (t : Transport) (r : Request)
    (hf : r.cancellation = none) (s : Session) :
    ∃ (r₁ : Request) (s₁ : Session), r₁.budget = r.budget ∧
      s₁.milestones = s.milestones ++ [.asked s.now] ∧
      ∀ rounds : ℕ, (p.send t rounds r).run s =
        Prod.map Course.outcome id
          (((⟨p.authenticator, policy⟩ : Throttle).course none t.next rounds r₁).run s₁) := by
  obtain ⟨headers, s', hcall, hm⟩ := hd.run_call_of_obliging ho (p.prepare r)
    ((s.record (.opened .authenticate "pipeline_send")).record (.counted .authenticate .attempt))
  have ha := p.run_authenticate (p.prepare r) s
  rw [hcall] at ha
  refine ⟨p.compressed { p.prepare r with headers },
    (s'.record (.counted .authenticate .success)).record (.opened .rateLimitRetry "intercept"),
    ?_, ?_, fun rounds => ?_⟩
  · rw [budget_compressed]
    rfl
  · rw [Session.milestones_record, Session.milestones_record, hm, Session.milestones_record,
      Session.milestones_record]
    simp [Event.milestone?]
  · rw [run_send hr hc t rounds ha, ← hf]
    rfl

/-- **How often a call is sent.** Of the answers to its successive sends, a call takes those up to
the first one that is not throttled, but no more than its limit allows. It asks for credentials
before each send, waits after each but the last as long as the answer asks for, and has the last
answer as its outcome. A call that is followed for fewer rounds has no outcome yet. -/
theorem sends_up_to_limit (hr : p.retries = some policy) (hc : p.custom = [])
    (hd : p.authenticator.Discreet) (ho : p.authenticator.Obliging) (t : Transport) (r : Request)
    (hf : r.cancellation = none) (s : Session) :
    ∃ answers : ℕ → Outcome, ∀ rounds : ℕ, ∃ calls : List Position,
      let m := min (firstSettled answers) (policy.sendLimit r.budget)
      let outcome := ((p.send t rounds r).run s).1
      let s' := ((p.send t rounds r).run s).2
      s'.calls = s.calls ++ calls ∧
      (calls.length : ℕ∞) = min (rounds : ℕ∞) m ∧
      calls.map t.answer = (List.range calls.length).map answers ∧
      (m ≤ rounds →
        calls.getLast?.map t.answer = some outcome ∧
        s'.milestones = s.milestones ++ .asked s.now :: itinerary policy t calls) ∧
      (rounds < m → outcome = .unfinished) := by
  obtain ⟨r₁, s₁, hbudget, hopen, hrun⟩ := course_of_send hr hc hd ho t r hf s
  refine ⟨((⟨p.authenticator, policy⟩ : Throttle).answers t · r₁ s₁), fun rounds => ?_⟩
  obtain ⟨calls, hcalls⟩ := Throttle.conforms_course (t := t) (h := ⟨p.authenticator, policy⟩)
    hd ho rounds r₁ s₁
  rw [hbudget] at hcalls
  refine ⟨calls, ?_⟩
  rw [hrun]
  refine ⟨?_, hcalls.count, hcalls.answered, fun hle => ⟨hcalls.result hle, ?_⟩,
    hcalls.unfinished⟩
  -- what the opening adds: one milestone, and no send
  · refine hcalls.sent.trans ?_
    rw [Session.calls_of_milestones hopen]
    simp [Milestone.position?]
  · refine (hcalls.order hle).trans ?_
    rw [hopen, List.append_assoc]
    rfl

/-- **Sent twice**: a policy of one resend, a transport that turns every request away. -/
theorem sends_up_to_limit_throttling :
    let p : Pipeline :=
      ⟨Credential.noAuth.authenticator .throttling, true, some ⟨⟨1000000000⟩, some 1⟩, [], .empty⟩
    let run := (p.send .throttling 2 .ofItems).run (.start 0)
    run.2.calls.length = 2 ∧ run.1 = .response ⟨.tooManyRequests, .empty, []⟩ := by
  intro p run
  obtain ⟨answers, hcalls⟩ := sends_up_to_limit (p := p) rfl rfl (Credential.discreet _ _)
    (fun _ _ => rfl) .throttling .ofItems rfl (.start 0)
  obtain ⟨calls, hsent, hcount, hans, hend, -⟩ := hcalls 2
  have hlimit : (⟨⟨1000000000⟩, some 1⟩ : RetryPolicy).sendLimit Request.ofItems.budget = 2 := rfl
  rw [hlimit] at hcount hend
  -- there is a first answer, and it is throttled
  obtain ⟨q, rest, rfl⟩ : ∃ q rest, calls = q :: rest := by
    refine List.exists_cons_of_ne_nil ?_
    rintro rfl
    have hone : (1 : ℕ∞) ≤ min ((2 : ℕ) : ℕ∞) (min (firstSettled answers) 2) :=
      le_min one_le_two (le_min (one_le_firstSettled answers) one_le_two)
    exact absurd (hone.trans_eq hcount.symm) (by simp)
  have hzero : answers 0 = .response ⟨.tooManyRequests, .empty, []⟩ := by
    rw [List.length_cons, List.range_succ_eq_map] at hans
    exact (List.cons.inj hans).1.symm
  have htwo : min (firstSettled answers) 2 = 2 := by
    rw [firstSettled_of_throttled (by rw [hzero]; rfl)]
    exact min_eq_right (add_le_add_left (one_le_firstSettled _) 1)
  rw [htwo] at hcount hend
  have hlength : (q :: rest).length = 2 := by
    rw [Nat.cast_ofNat, min_self] at hcount
    exact_mod_cast hcount
  refine ⟨?_, ?_⟩
  · rw [hsent]
    exact hlength
  · obtain ⟨p, hp, hout⟩ := Option.map_eq_some_iff.mp (hend le_rfl).1
    exact hout.symm

end Pipeline

end Outbound
