import Outbound.Proofs.Pipeline.Passage
import Outbound.Proofs.Pipeline.Settings

/-!
# Passing the user's interceptors

Interceptors of the user that rewrite the request and run the rest of the way once. They come last,
so that each attempt of a call leads through all of them, from the request as the call holds it.

* **way** — `Rewritten` takes a request through rewriters, one after another; `Rewriter.run_way`
  says that the way to the transport does this, sends the result and passes the answer back;
* **attempts** — `Attempted` says how the attempts of a call follow each other;
  `attempted_of_course` that a course is made of attempts;
* **calls** — `InOrder` puts together what holds of a call, and `rewriters_in_order` says that it
  does.
-/

namespace Outbound

open Outbound.Time

/-! ## Rewriters -/

/-- **Rewriters**: interceptors that give the request another form, in whatever way, by looking at
whatever they like. They may take their time over it, but leave no events of their own. -/
structure Rewriter where
  name : String
  rewrite : Request → Act Request
  silent : ∀ (r : Request) (s : Session), ((rewrite r).run s).2.log = s.log

namespace Rewriter

/-- A rewriter that looks at nothing but the request. -/
def preparing (name : String) (f : Request → Request) : Rewriter :=
  ⟨name, fun r => return f r, fun _ _ => rfl⟩

/-- **The interceptor**: it runs the rest of the way once, and the outcome of that is its own. -/
def interceptor (i : Rewriter) : Interceptor :=
  ⟨i.name, fun r next => do next.run (← i.rewrite r)⟩

/-- **The entries** of one way through rewriters: each once, in order, with those behind it. -/
def entries : List Rewriter → List Passage
  | [] => []
  | i :: rest => .entered i.name (rest.map name) :: entries rest

theorem countP_entries (is : List Rewriter) :
    (entries is).countP Passage.isEntered = is.length := by
  induction is with
  | nil => rfl
  | cons i rest ih =>
    rw [entries, List.countP_cons_of_pos rfl, ih]
    rfl

theorem countP_isSent_entries (is : List Rewriter) : (entries is).countP Passage.isSent = 0 := by
  induction is with
  | nil => rfl
  | cons i rest ih =>
    rw [entries, List.countP_cons_of_neg (by exact Bool.false_ne_true), ih]

end Rewriter

/-- **Through rewriters**: each is entered and gets the request as those before it have left it. -/
inductive Rewritten : List Rewriter → Request → Session → Request → Session → Prop
  | done {r s} : Rewritten [] r s r s
  | entered {i rest r s r' s' q s''}
      (rewrote : (i.rewrite r).run (s.record (.entered i.name (rest.map Rewriter.name))) = (r', s'))
      (passed : Rewritten rest r' s' q s'') : Rewritten (i :: rest) r s q s''

namespace Rewritten

variable {is : List Rewriter} {r q : Request} {s s' : Session}

/-- **All of them are entered**, each once and in order. -/
theorem passages_eq (h : Rewritten is r s q s') :
    s'.passages = s.passages ++ Rewriter.entries is := by
  induction h with
  | done => exact (List.append_nil _).symm
  | @entered i rest r s r' s' q s'' rewrote passed ih =>
    have hlog := i.silent r (s.record (.entered i.name (rest.map Rewriter.name)))
    rw [rewrote] at hlog
    have hentered : s'.log = [.entered i.name (rest.map Rewriter.name)] ++ s.log := hlog
    rw [ih, Session.passages_of_log hentered, List.append_assoc]
    rfl

/-- Without rewriters the request stays as it is. -/
theorem eq_of_nil (h : Rewritten [] r s q s') : q = r := by
  cases h
  rfl

/-- **The composition of the rewrites**, if these are functions of the request: the first rewriter
is applied first. -/
theorem eq_foldl {fs : List (String × (Request → Request))}
    (h : Rewritten (fs.map fun (name, f) => .preparing name f) r s q s') :
    q = fs.foldl (fun r (_, f) => f r) r := by
  induction fs generalizing r s with
  | nil =>
    cases h
    rfl
  | cons f fs ih =>
    cases h with
    | entered rewrote passed =>
      cases rewrote
      exact ih passed

end Rewritten

namespace Rewriter

/-- **The way** through rewriters to the transport. -/
def way (t : Transport) (is : List Rewriter) : Next :=
  chain t ((is.map interceptor).map Interceptor.recorded)

/-- At each point it lists the rewriters that are left. -/
theorem names_way (t : Transport) (is : List Rewriter) : (way t is).names = is.map name := by
  induction is with
  | nil => rfl
  | cons i rest ih => exact congrArg (i.name :: ·) ih

/-- **A rewriter on the way**: it is entered, then the rest of the way gets the request as it leaves
it. -/
theorem run_way_cons (t : Transport) (i : Rewriter) (rest : List Rewriter) (r : Request)
    (s : Session) :
    ((way t (i :: rest)).run r).run s =
      ((way t rest).run ((i.rewrite r).run (s.record (.entered i.name (way t rest).names))).1).run
        ((i.rewrite r).run (s.record (.entered i.name (way t rest).names))).2 := rfl

/-- **Going this way** takes the request through the rewriters, sends what comes of it, and passes
back what the transport answers. -/
theorem run_way (t : Transport) (is : List Rewriter) (r : Request) (s : Session) :
    ∃ q s', Rewritten is r s q s' ∧
      ((way t is).run r).run s = (t.answer s'.position, t.delivered q s') := by
  induction is generalizing r s with
  | nil => exact ⟨r, s, .done, t.run_next r s⟩
  | cons i rest ih =>
    rcases hi : (i.rewrite r).run (s.record (.entered i.name (rest.map name))) with ⟨r', s'⟩
    obtain ⟨q, s'', hpassed, hrun⟩ := ih r' s'
    refine ⟨q, s'', .entered hi hpassed, ?_⟩
    rw [run_way_cons, names_way, hi, hrun]

end Rewriter

/-! ## Attempts -/

/-- **Attempts**: the request as the call holds it, what the transport receives, and where. -/
structure Attempt where
  held : Request
  received : Request
  position : Position

namespace Attempt

/-- **What an attempt leaves**: all rewriters are entered in order, then the transport receives the
request. -/
def passages (is : List Rewriter) (x : Attempt) : List Passage :=
  Rewriter.entries is ++ [.sent x.position x.received]

/-- **What is received** is what rewriters make of the request that is held. -/
def MadeBy (is : List Rewriter) (x : Attempt) : Prop :=
  ∃ s s', Rewritten is x.held s x.received s' ∧ s'.position = x.position

/-- What is counted in one attempt is counted as often as there are attempts. -/
theorem countP_flatMap_passages {is : List Rewriter} {count : Passage → Bool} {n : Nat}
    (h : ∀ x : Attempt, (x.passages is).countP count = n) (xs : List Attempt) :
    (xs.flatMap (passages is)).countP count = xs.length * n := by
  induction xs with
  | nil => exact (Nat.zero_mul n).symm
  | cons x xs ih =>
    rw [List.flatMap_cons, List.countP_append, h x, ih, List.length_cons, Nat.succ_mul,
      Nat.add_comm]

/-- **Entries**: each attempt enters as many interceptors as there are. -/
theorem countP_isEntered (is : List Rewriter) (xs : List Attempt) :
    (xs.flatMap (passages is)).countP Passage.isEntered = xs.length * is.length := by
  refine countP_flatMap_passages (fun x => ?_) xs
  rw [passages, List.countP_append, Rewriter.countP_entries]
  rfl

/-- **Sends**: each attempt sends one request. -/
theorem countP_isSent (is : List Rewriter) (xs : List Attempt) :
    (xs.flatMap (passages is)).countP Passage.isSent = xs.length := by
  refine (countP_flatMap_passages (fun x => ?_) xs).trans (Nat.mul_one _)
  rw [passages, List.countP_append, Rewriter.countP_isSent_entries]
  rfl

end Attempt

namespace Throttle

variable (h : Throttle)

/-- **Resending**: the next request is made from the one that is held, by taking an attempt and
asking for credentials. -/
def Resends (r r' : Request) : Prop :=
  ∃ left s s', h.take r = (true, left) ∧
    (h.authenticator.call (h.equip r left)).run s = ((.ok (), r'), s')

/-- **Stopping** behind a throttled answer: the wait is given up, or credentials are refused. -/
def Stops (f : Failure) : Prop :=
  f = .cancelled ∨ ∃ r s r' s', (h.authenticator.call r).run s = ((.error f, r'), s')

end Throttle

/-- **The attempts of a call** that holds a request, and its outcome: that of its last attempt,
unless the call stops behind a throttled answer or is not followed further. Only if throttled
answers are dealt with is there more than one. -/
inductive Attempted (h? : Option Throttle) (t : Transport) (is : List Rewriter) :
    Request → List Attempt → Outcome → Prop
  | unfollowed {r} : Attempted h? t is r [] .unfinished
  | last {x} (made : x.MadeBy is) : Attempted h? t is x.held [x] (t.answer x.position)
  | stopped {x h f} (made : x.MadeBy is) (throttled : (t.answer x.position).isThrottled)
      (dealing : h? = some h) (stops : h.Stops f) : Attempted h? t is x.held [x] (.failure f)
  | again {x h r xs outcome} (made : x.MadeBy is) (throttled : (t.answer x.position).isThrottled)
      (dealing : h? = some h) (resends : h.Resends x.held r)
      (rest : Attempted h? t is r xs outcome) : Attempted h? t is x.held (x :: xs) outcome

namespace Attempted

variable {h? : Option Throttle} {t : Transport} {is : List Rewriter} {r : Request}
  {xs : List Attempt} {outcome : Outcome}

theorem madeBy (ha : Attempted h? t is r xs outcome) : ∀ x ∈ xs, x.MadeBy is := by
  induction ha with
  | unfollowed => exact List.forall_mem_nil _
  | last made => exact List.forall_mem_singleton.mpr made
  | stopped made => exact List.forall_mem_singleton.mpr made
  | again made _ _ _ _ ih => exact List.forall_mem_cons.mpr ⟨made, ih⟩

/-- The first attempt is made with the request that the call holds. -/
theorem held_of_head? (ha : Attempted h? t is r xs outcome) : ∀ x ∈ xs.head?, x.held = r := by
  cases ha with
  | unfollowed => simp
  | _ =>
    rintro x ⟨⟩
    rfl

/-- And every further one with what comes of the request that was held before. -/
theorem isChain (ha : Attempted h? t is r xs outcome) :
    (xs.map Attempt.held).IsChain fun r r' => ∃ h, h? = some h ∧ h.Resends r r' := by
  induction ha with
  | unfollowed => exact .nil
  | last => exact .singleton _
  | stopped => exact .singleton _
  | @again x h r xs _ _ _ dealing resends rest ih =>
    cases xs with
    | nil => exact .singleton _
    | cons y ys =>
      have hy : y.held = r := rest.held_of_head? y rfl
      exact .cons_cons ⟨h, dealing, hy ▸ resends⟩ ih

/-- Only throttled answers are followed by another attempt. -/
theorem isThrottled (ha : Attempted h? t is r xs outcome) :
    ∀ x ∈ xs.dropLast, (t.answer x.position).isThrottled := by
  induction ha with
  | unfollowed => exact List.forall_mem_nil _
  | last => exact List.forall_mem_nil _
  | stopped => exact List.forall_mem_nil _
  | @again x h r xs _ _ throttled _ _ _ ih =>
    cases xs with
    | nil => exact List.forall_mem_nil _
    | cons y ys => exact List.forall_mem_cons.mpr ⟨throttled, ih⟩

/-- **The outcome** is the last answer, unless this is a throttled one behind which the call stops
or is not followed. -/
theorem outcome_of_getLast? (ha : Attempted h? t is r xs outcome) :
    ∀ x ∈ xs.getLast?, outcome = t.answer x.position ∨
      (t.answer x.position).isThrottled ∧ ∃ h, h? = some h ∧
        (outcome = .unfinished ∨ ∃ f, outcome = .failure f ∧ h.Stops f) := by
  induction ha with
  | unfollowed => simp
  | last =>
    rintro x ⟨⟩
    exact .inl rfl
  | @stopped _ h f _ throttled dealing stops =>
    rintro x ⟨⟩
    exact .inr ⟨throttled, h, dealing, .inr ⟨f, rfl, stops⟩⟩
  | @again x h r xs _ _ throttled dealing _ rest ih =>
    cases xs with
    | nil =>
      cases rest
      rintro x ⟨⟩
      exact .inr ⟨throttled, h, dealing, .inl rfl⟩
    | cons y ys => exact ih

end Attempted

namespace Throttle

variable {h : Throttle} {t : Transport} {is : List Rewriter} {cancellation : Option Cancellation}
  {r : Request} {s s' : Session}

/-- **A round is an attempt**: its answer is the outcome, or is a throttled one behind which the
call stops or sends again. -/
theorem attempt_of_round (ha : h.authenticator.Reticent) {result : Outcome ⊕ Request}
    (hround : (h.round cancellation (Rewriter.way t is) r).run s = (result, s')) :
    ∃ x : Attempt, x.held = r ∧ x.MadeBy is ∧ s'.passages = s.passages ++ x.passages is ∧
      (result = .inl (t.answer x.position) ∨ (t.answer x.position).isThrottled ∧
        ((∃ f, result = .inl (.failure f) ∧ h.Stops f) ∨
          ∃ r', result = .inr r' ∧ h.Resends r r')) := by
  obtain ⟨q, s₀, hrewritten, hrun⟩ := Rewriter.run_way t is r s
  have hsent : (t.delivered q s₀).passages =
      s.passages ++ (⟨r, q, s₀.position⟩ : Attempt).passages is := by
    rw [t.passages_delivered, hrewritten.passages_eq, List.append_assoc]
    rfl
  have hanswered {outcome : Outcome} {s₁ : Session}
      (hn : ((Rewriter.way t is).run r).run s = (outcome, s₁)) :
      t.answer s₀.position = outcome ∧ t.delivered q s₀ = s₁ :=
    Prod.mk.inj (hrun.symm.trans hn)
  have hthrottled {response : Response} (h₀ : t.answer s₀.position = .response response)
      (ho : response.status = .tooManyRequests) : (t.answer s₀.position).isThrottled := by
    rw [h₀]
    exact decide_eq_true ho
  refine ⟨⟨r, q, s₀.position⟩, rfl, ⟨s, s₀, hrewritten, rfl⟩, ?_⟩
  rw [← hsent]
  cases rounded_of_run hround with
  | settled answered =>
    obtain ⟨h₀, rfl⟩ := hanswered answered
    exact ⟨rfl, .inl (congrArg Sum.inl h₀.symm)⟩
  | spent answered throttled taken =>
    obtain ⟨h₀, rfl⟩ := hanswered answered
    refine ⟨?_, .inl (congrArg Sum.inl h₀.symm)⟩
    exact Session.Grows.passages_eq (.record (.record (.refl _) rfl) rfl)
  | @givenUp _ _ _ f _ answered throttled taken paused =>
    obtain ⟨h₀, rfl⟩ := hanswered answered
    obtain ⟨hpassages, hgiven⟩ := passages_pause paused
    exact ⟨hpassages, .inr ⟨hthrottled h₀ throttled, .inl ⟨f, rfl, .inl (hgiven f rfl)⟩⟩⟩
  | @refused _ left _ s₂ f r' s₃ answered throttled taken paused called =>
    obtain ⟨h₀, rfl⟩ := hanswered answered
    have hcall := ha.call (h.equip r left) s₂
    rw [called, (passages_pause paused).1] at hcall
    exact ⟨hcall, .inr ⟨hthrottled h₀ throttled, .inl ⟨f, rfl, .inr ⟨_, _, _, _, called⟩⟩⟩⟩
  | @resent _ left _ s₂ r' s₃ answered throttled taken paused called =>
    obtain ⟨h₀, rfl⟩ := hanswered answered
    have hcall := ha.call (h.equip r left) s₂
    rw [called, (passages_pause paused).1] at hcall
    exact ⟨hcall, .inr ⟨hthrottled h₀ throttled, .inr ⟨r', rfl, left, _, _, taken, called⟩⟩⟩

/-- **A course is made of attempts.** There is one in each round, and the call is only left without
an outcome when the rounds are over. -/
theorem attempted_of_course (ha : h.authenticator.Reticent) (rounds : Nat) {course : Course}
    (hcourse : (h.course cancellation (Rewriter.way t is) rounds r).run s = (course, s')) :
    ∃ xs : List Attempt, Attempted (some h) t is r xs course.outcome ∧
      s'.passages = s.passages ++ xs.flatMap (Attempt.passages is) ∧ (xs = [] → rounds = 0) ∧
      (course.outcome = .unfinished → xs.length = rounds) := by
  induction rounds generalizing r s s' course with
  | zero =>
    cases hcourse
    exact ⟨[], .unfollowed, (List.append_nil _).symm, fun _ => rfl, fun _ => rfl⟩
  | succ more ih =>
    rw [course_succ] at hcourse
    rcases hround : (h.round cancellation (Rewriter.way t is) r).run s with ⟨result, s₁⟩
    rw [hround] at hcourse
    obtain ⟨x, rfl, hmade, hpassages, rfl | ⟨hthrottled, ⟨f, rfl, hstops⟩ | ⟨r', rfl, hresends⟩⟩⟩ :=
      attempt_of_round ha hround
    -- the answer of the attempt is the outcome
    · cases hcourse
      exact ⟨[x], .last hmade, by simpa using hpassages, nofun, fun hout =>
        absurd hout (t.answer_ne_unfinished _)⟩
    -- the call stops behind the attempt
    · cases hcourse
      exact ⟨[x], .stopped hmade hthrottled rfl hstops, by simpa using hpassages, nofun, nofun⟩
    -- there are further rounds
    · rcases hrest : (h.course cancellation (Rewriter.way t is) more r').run s₁ with ⟨rest, s₂⟩
      obtain ⟨xs, hattempted, hpassages', -, hlength⟩ := ih hrest
      simp only [hrest] at hcourse
      cases hcourse
      refine ⟨x :: xs, .again hmade hthrottled rfl hresends hattempted, ?_, nofun, fun hout =>
        congrArg Nat.succ (hlength hout)⟩
      rw [hpassages', hpassages, List.flatMap_cons, List.append_assoc]

end Throttle

/-! ## Calls -/

namespace Pipeline

/-- **In order**: what holds of the attempts of a call through rewriters, and of what the call comes
to. -/
structure InOrder (a : Authenticator) (settings : List Setting) (is : List Rewriter) (t : Transport)
    (rounds : Nat) (r : Request) (s : Session) (attempts : List Attempt) (run : Outcome × Session) :
    Prop where
  /-- Attempt after attempt, each rewriter is entered once and in order, and the transport receives
  a request. -/
  passages : run.2.passages = s.passages ++ attempts.flatMap (Attempt.passages is)
  /-- So there is one send for each attempt. -/
  sends : run.2.passages.countP Passage.isSent =
    s.passages.countP Passage.isSent + attempts.length
  /-- And as many entries as there are rewriters. -/
  entries : run.2.passages.countP Passage.isEntered =
    s.passages.countP Passage.isEntered + attempts.length * is.length
  /-- What the transport receives is what the rewriters make of the request that is held. -/
  made : ∀ x ∈ attempts, x.MadeBy is
  /-- If they look at nothing else, it is the composition of the rewrites. -/
  composed : ∀ fs : List (String × (Request → Request)),
    is = fs.map (fun (name, f) => .preparing name f) →
      ∀ x ∈ attempts, x.received = fs.foldl (fun r (_, f) => f r) x.held
  /-- The first attempt holds the request with its first credentials, compressed if the settings
  come to that. -/
  first : ∀ x ∈ attempts.head?, ∃ r₁ s₁,
    ((build a settings).authenticate ((build a settings).prepare r)).run s = ((.ok (), r₁), s₁) ∧
      x.held = if Setting.compress settings then r₁.compress else r₁
  /-- Every further attempt holds what comes of the request that was held before, and is not
  compressed again. -/
  next : (attempts.map Attempt.held).IsChain fun r r' =>
    ∃ h, Setting.throttle? a settings = some h ∧ h.Resends r r'
  /-- It is made because the answer was throttled. -/
  throttled : ∀ x ∈ attempts.dropLast, (t.answer x.position).isThrottled
  /-- The last answer is the outcome, unless throttled answers are dealt with and the call stops
  behind this one, or the rounds are over. -/
  outcome : ∀ x ∈ attempts.getLast?, run.1 = t.answer x.position ∨
    (t.answer x.position).isThrottled ∧ ∃ h, Setting.throttle? a settings = some h ∧
      (run.1 = .unfinished ∧ attempts.length = rounds ∨ ∃ f, run.1 = .failure f ∧ h.Stops f)
  /-- There is an attempt, unless the first credentials are refused or there are no rounds. -/
  unattempted : attempts = [] → rounds = 0 ∨ ∃ f r₁ s₁,
    ((build a settings).authenticate ((build a settings).prepare r)).run s = ((.error f, r₁), s₁) ∧
      run = (.failure f, s₁)

variable {p : Pipeline} {a : Authenticator} {settings : List Setting} {is : List Rewriter}
  {t : Transport} {rounds : Nat} {r r₁ : Request} {s s₁ s₂ : Session} {outcome : Outcome}
  {xs : List Attempt}

/-- **Refused**: a call without first credentials has no attempts. -/
theorem InOrder.refused {f : Failure}
    (hopen : ((build a settings).authenticate ((build a settings).prepare r)).run s =
      ((.error f, r₁), s₁))
    (hpassages : s₁.passages = s.passages) :
    InOrder a settings is t rounds r s [] (.failure f, s₁) where
  passages := by rw [hpassages, List.flatMap_nil, List.append_nil]
  sends := by rw [hpassages, List.length_nil, Nat.add_zero]
  entries := by rw [hpassages, List.length_nil, Nat.zero_mul, Nat.add_zero]
  made := List.forall_mem_nil _
  composed _ _ := List.forall_mem_nil _
  first := by simp
  next := .nil
  throttled := List.forall_mem_nil _
  outcome := by simp
  unattempted _ := .inr ⟨f, r₁, s₁, hopen, rfl⟩

/-- **Opened**: with first credentials, a call is in order if its attempts follow each other. -/
theorem InOrder.opened
    (hopen : ((build a settings).authenticate ((build a settings).prepare r)).run s =
      ((.ok (), r₁), s₁))
    (hattempted : Attempted (Setting.throttle? a settings) t is
      (if Setting.compress settings then r₁.compress else r₁) xs outcome)
    (hpassages : s₂.passages = s.passages ++ xs.flatMap (Attempt.passages is))
    (hnil : xs = [] → rounds = 0) (hunfinished : outcome = .unfinished → xs.length = rounds) :
    InOrder a settings is t rounds r s xs (outcome, s₂) where
  passages := hpassages
  sends := by rw [hpassages, List.countP_append, Attempt.countP_isSent]
  entries := by rw [hpassages, List.countP_append, Attempt.countP_isEntered]
  made := hattempted.madeBy
  composed := by
    rintro fs rfl x hx
    obtain ⟨_, _, hrewritten, -⟩ := hattempted.madeBy x hx
    exact hrewritten.eq_foldl
  first x hx := ⟨r₁, s₁, hopen, hattempted.held_of_head? x hx⟩
  next := hattempted.isChain
  throttled := hattempted.isThrottled
  outcome := by
    intro x hx
    rcases hattempted.outcome_of_getLast? x hx with hout | ⟨hth, h, hdealing, hout | hout⟩
    · exact .inl hout
    · exact .inr ⟨hth, h, hdealing, .inl ⟨hout, hunfinished hout⟩⟩
    · exact .inr ⟨hth, h, hdealing, .inr hout⟩
  unattempted h := .inl (hnil h)

/-- **Through a pipeline** that is done with its first credentials, a request goes in attempts. -/
theorem attempted_of_chain (ha : p.authenticator.Reticent)
    (hc : p.custom = is.map Rewriter.interceptor)
    (hrun : ((chain t (p.interceptors rounds)).run r).run s = (outcome, s₁)) :
    ∃ xs : List Attempt, Attempted p.throttle? t is (p.compressed r) xs outcome ∧
      s₁.passages = s.passages ++ xs.flatMap (Attempt.passages is) ∧ (xs = [] → rounds = 0) ∧
      (outcome = .unfinished → xs.length = rounds) := by
  have hway : chain t (p.custom.map Interceptor.recorded) = Rewriter.way t is := by
    rw [hc]
    rfl
  rw [run_chain_interceptors, hway] at hrun
  rcases hthrottle : p.throttle? with _ | h
  · simp only [hthrottle] at hrun
    obtain ⟨q, s₂, hrewritten, hsent⟩ := Rewriter.run_way t is (p.compressed r) s
    cases hsent.symm.trans hrun
    have hmade : (⟨p.compressed r, q, s₂.position⟩ : Attempt).MadeBy is :=
      ⟨s, s₂, hrewritten, rfl⟩
    refine ⟨_, .last hmade, ?_, nofun, fun hout => absurd hout (t.answer_ne_unfinished _)⟩
    rw [t.passages_delivered, hrewritten.passages_eq, List.append_assoc, List.flatMap_singleton]
    rfl
  · have hauthenticator : h.authenticator = p.authenticator := by
      obtain ⟨_, -, rfl⟩ := Option.map_eq_some_iff.mp hthrottle
      rfl
    simp only [hthrottle, Throttle.run_interceptor] at hrun
    rcases hcourse : (h.course (p.compressed r).cancellation (Rewriter.way t is) rounds
      (p.compressed r)).run (s.record (.opened .rateLimitRetry "intercept")) with ⟨course, s₂⟩
    rw [hcourse] at hrun
    cases hrun
    obtain ⟨xs, hattempted, hpassages, hrest⟩ :=
      Throttle.attempted_of_course (hauthenticator ▸ ha) rounds hcourse
    refine ⟨xs, hattempted, ?_, hrest⟩
    rw [Session.passages_record] at hpassages
    exact hpassages.trans (congrArg (· ++ _) (List.append_nil _))

/-- **Rewriters in order.** Whatever settings a pipeline is built from, if the interceptors among
them are rewriters: the request is compressed at most once and before they are entered; each attempt
of a call leads through all of them in the order in which they were added, each with those behind
it, and hands the transport what they make of the request that the call holds then, not of an
earlier attempt's; and what the transport answers comes back as it is. -/
theorem rewriters_in_order (ha : a.Reticent)
    (his : settings.filterMap Setting.interceptor? = is.map Rewriter.interceptor) (t : Transport)
    (rounds : Nat) (r : Request) (s : Session) :
    ∃ attempts, InOrder a settings is t rounds r s attempts
      (((build a settings).send t rounds r).run s) := by
  have hreticent : (build a settings).authenticator.Reticent := by
    rw [authenticator_build]
    exact ha
  have hcustom : (build a settings).custom = is.map Rewriter.interceptor := by
    rw [custom_build, his]
  have hcredentials := passages_authenticate hreticent ((build a settings).prepare r) s
  rcases hopen : ((build a settings).authenticate ((build a settings).prepare r)).run s with
    ⟨⟨f | _, r₁⟩, s₁⟩ <;> rw [hopen] at hcredentials
  · rw [run_send_refused hopen]
    exact ⟨[], .refused hopen hcredentials⟩
  · rw [run_send_opened hopen]
    rcases hchain : ((chain t ((build a settings).interceptors rounds)).run r₁).run s₁ with
      ⟨outcome, s₂⟩
    obtain ⟨xs, hattempted, hpassages, hnil, hunfinished⟩ :=
      attempted_of_chain hreticent hcustom hchain
    rw [throttle?_build, compressed, compresses_build] at hattempted
    rw [hcredentials] at hpassages
    exact ⟨xs, .opened hopen hattempted hpassages hnil hunfinished⟩

/-- **Two rewriters, sent twice**: with compression and one resend, by a transport that turns every
request away. -/
theorem rewriters_in_order_throttling :
    let is : List Rewriter :=
      [.preparing "first" (·.withBudget ⟨some 3⟩), .preparing "second" (·.withBudget ⟨some 1⟩)]
    let settings := [.interceptor (is[0]).interceptor, .retries ⟨⟨1000000000⟩, some 1⟩,
      .interceptor (is[1]).interceptor, .gzip true]
    let a := Credential.noAuth.authenticator .throttling
    let run := ((build a settings).send .throttling 3 .ofItems).run (.start 0)
    ∃ attempts, InOrder a settings is .throttling 3 .ofItems (.start 0) attempts run ∧
      attempts.length = 2 := by
  intro is settings a run
  have his : settings.filterMap Setting.interceptor? = is.map Rewriter.interceptor := rfl
  obtain ⟨attempts, hattempts⟩ := rewriters_in_order (Credential.noAuth.reticent .throttling) his
    .throttling 3 .ofItems (.start 0)
  refine ⟨attempts, hattempts, ?_⟩
  have hsends := hattempts.sends
  have htwo : run.2.passages.countP Passage.isSent = 2 := rfl
  rw [htwo] at hsends
  exact (Nat.zero_add _).symm.trans hsends.symm

end Pipeline

end Outbound
