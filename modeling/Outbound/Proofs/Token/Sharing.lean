import Outbound.Proofs.Token.Provenance

/-!
# Sharing a token

What many callers of one issuer can rely on, in whatever order things happen.

* **keeping** — while nobody exchanges and the kept token is valid and not dropped, nobody sends
  anything and the token stays (`keeps_of_stepped`, `keeps_of_run?`);
* **storing** — so it is after a reply with a token has been taken (`keeps_of_settle`);
* **sharing** — `Orderly` puts together what holds of every crowd that is reached from the
  beginning.
-/

namespace Outbound

open Outbound.Time

namespace Crowd

variable {i : Issuer} {t : Transport} {o b c d e : Crowd} {move : Move} {moves : List Move}
  {m n : Nat} {token : AccessToken}

/-! ## Keeping a token -/

/-- **A token is kept and nobody is about to replace it.** -/
structure Keeps (token : AccessToken) (c : Crowd) : Prop where
  kept : c.session.kept = some token
  nobody : ∀ n, (c.phase n).isExchanging = false

/-- **Step.** Unless the kept token is dropped, it stays as long as it is valid. -/
theorem keeps_of_stepped (h : Keeps token c) (hstep : Stepped i t c move e)
    (hmove : move ≠ .invalidate) (hvalid : token.isValidAt e.session.now) : Keeps token e := by
  have hnow : c.session.validToken? = some token :=
    Session.validToken?_eq_some.mpr ⟨h.kept, AccessToken.isValidAt_of_le hvalid hstep.now_le⟩
  constructor
  · cases hstep with
    | @settle k _ _ hp =>
      have hnobody := h.nobody k
      rw [hp] at hnobody
      cases hnobody
    | invalidate => exact absurd rfl hmove
    | _ => exact h.kept
  · intro n
    -- nobody begins an exchange, since a look would find the kept token
    refine Bool.eq_false_iff.mpr fun hn => ?_
    have hmiss := (hstep.begins ⟨h.nobody n, hn⟩).2.2.1
    rw [hnow] at hmiss
    cases hmiss

theorem now_le_of_run? (h : d.run? i t moves = some c) : d.session.now ≤ c.session.now := by
  induction moves generalizing d with
  | nil =>
    obtain rfl := Option.some.inj h
    exact Int.le_refl _
  | cons move moves ih =>
    obtain ⟨e, he, hrest⟩ := Option.bind_eq_some_iff.mp h
    exact Int.le_trans (stepped_of_step? he).now_le (ih hrest)

/-- **Run.** A token that is valid at the end has been kept all the time. -/
theorem keeps_of_run? (h : Keeps token d) (hrun : d.run? i t moves = some c)
    (hmoves : Move.invalidate ∉ moves) (hvalid : token.isValidAt c.session.now) :
    Keeps token c := by
  induction moves generalizing d with
  | nil =>
    obtain rfl := Option.some.inj hrun
    exact h
  | cons move moves ih =>
    obtain ⟨e, he, hrest⟩ := Option.bind_eq_some_iff.mp hrun
    rw [List.mem_cons, not_or] at hmoves
    obtain ⟨hmove, hmoves⟩ := hmoves
    have hvalid' := AccessToken.isValidAt_of_le hvalid (now_le_of_run? hrest)
    exact ih (keeps_of_stepped h (stepped_of_step? he) (Ne.symm hmove) hvalid') hrest hmoves

/-- **Storing.** Once a reply with a token has been taken, the token is kept and nobody
exchanges. -/
theorem keeps_of_settle (hb : b.Guarded) (hstep : b.step? i t (.settle m) = some d)
    (hresult : d.result? m = some (.ok token)) : Keeps token d := by
  have hguarded : d.Guarded := guarded_of_stepped hb (stepped_of_step? hstep)
  obtain ⟨outcome, due, hp, -, rfl⟩ := (step?_settle i t).mp hstep
  rw [settle_eq] at hresult hguarded ⊢
  have htoken : Issuer.tokenOfOutcome outcome b.session.now = .ok token := by
    simpa [result?, Answer.result] using hresult
  constructor
  · rw [session_guardedBy, session_around, Issuer.kept_settled, htoken]
  -- the guard is free, and whoever exchanges would have it
  · intro n
    refine Bool.eq_false_iff.mpr fun hn => ?_
    have hholder := (hguarded n).mpr (Phase.hasGuard_of_isExchanging hn)
    cases hholder

/-- **A waiter** who has got the guard and finds a valid token kept is answered it. Nothing is
sent. -/
theorem recheck_of_keeps (h : Keeps token c) (hvalid : token.isValidAt c.session.now)
    (hp : c.phase n = .guarding) :
    ∃ e, c.step? i t (.recheck n) = some e ∧ e.result? n = some (.ok token) ∧
      e.session = c.session := by
  have hv : c.session.validToken? = some token :=
    Session.validToken?_eq_some.mpr ⟨h.kept, hvalid⟩
  refine ⟨_, (step?_recheck i t).mpr ⟨hp, recheck_hit hv⟩, ?_, rfl⟩
  simp [result?, Answer.result]

/-! ## Sharing -/

/-- **What callers can rely on** in a crowd `c` that comes of `o`. -/
structure Orderly (i : Issuer) (t : Transport) (o c : Crowd) : Prop where
  /-- At most one caller awaits the reply to a token request. -/
  unique : ∀ m n, (c.phase m).isExchanging → (c.phase n).isExchanging → m = n
  /-- Who begins an exchange has the guard, and at that time no valid token is kept. -/
  begins : ∀ n move e, c.step? i t move = some e → Begins n c e →
    c.holder = some n ∧ c.session.validToken? = none
  /-- A request is sent only by a caller who begins an exchange. -/
  sends : ∀ move e, c.step? i t move = some e → e.session.sends ≠ c.session.sends →
    ∃ n, Begins n c e
  /-- A token that is answered was kept and valid when the caller read it in its call, or comes from
  the reply to the caller's own request. -/
  answers : ∀ n token, c.result? n = some (.ok token) →
    (∃ readAt, ReadInCall i t o n token readAt c) ∨ RepliedInCall i t o n (.ok token) c
  /-- Once a caller `m` has stored a token, whoever then has got the guard, having waited for it or
  come later, is answered this token if it is still valid and has not been dropped. Nothing is
  sent. -/
  waiters : ∀ m n token b d moves, Reaches i t o b → b.step? i t (.settle m) = some d →
    d.result? m = some (.ok token) → d.run? i t moves = some c → .invalidate ∉ moves →
    c.phase n = .guarding → token.isValidAt c.session.now →
    ∃ e, c.step? i t (.recheck n) = some e ∧ e.result? n = some (.ok token) ∧
      e.session = c.session

/-- **Sharing.** Whoever comes to one issuer, in whatever order they move, with any replies and
delays, any passing of time, any droppings of the kept token and any callers who give up: the crowd
is orderly wherever it gets to. -/
theorem orderly_of_reaches {s : Session} (h : Reaches i t (start s) c) :
    Orderly i t (start s) c := by
  have hguarded : c.Guarded := guarded_of_reaches (.start s) h
  refine ⟨fun m n => hguarded.exchanging_unique, ?_, ?_, ?_, ?_⟩
  · intro n move e hstep hbegins
    obtain ⟨hholder, hmiss, -⟩ := hguarded.begins (stepped_of_step? hstep) hbegins
    exact ⟨hholder, hmiss⟩
  · intro move e hstep hsends
    exact (stepped_of_step? hstep).begins_of_sends_ne hsends
  · intro n token hresult
    have hexplained := explained_of_reaches h n
    rw [result?] at hresult
    split at hresult
    · next answer hp =>
      rw [hp] at hexplained
      cases answer with
      | kept kept readAt =>
        obtain rfl := Except.ok.inj (Option.some.inj hresult)
        exact .inl ⟨readAt, hexplained⟩
      | exchanged result =>
        obtain rfl : result = .ok token := Option.some.inj hresult
        exact .inr hexplained
    · cases hresult
  · intro m n token b d moves hb hstep hresult hrun hmoves hp hvalid
    have hkeeps := keeps_of_settle (guarded_of_reaches (.start s) hb) hstep hresult
    exact recheck_of_keeps (keeps_of_run? hkeeps hrun hmoves hvalid) hvalid hp

theorem reaches_of_run? (hd : Reaches i t o d) (hrun : d.run? i t moves = some c) :
    Reaches i t o c := by
  induction moves generalizing d with
  | nil =>
    obtain rfl := Option.some.inj hrun
    exact hd
  | cons move moves ih =>
    obtain ⟨e, he, hrest⟩ := Option.bind_eq_some_iff.mp hrun
    exact ih (hd.step he) hrest

end Crowd

/-- An issuer for an API key. -/
def Issuer.ofKey : Issuer :=
  let url : Url := ⟨"https", some ⟨"", "", .name "iam.example.com", none⟩,
    .segments ["identity", "token"], none, none⟩
  ⟨⟨⟨"key"⟩, url, none, none, none⟩, url, none⟩

/-- A token that was issued at the epoch for an hour. -/
def AccessToken.ofHour : AccessToken := ⟨"e30.eyJpYXQiOjAsImV4cCI6MzYwMH0.", 2880000⟩

/-- A transport that answers every request with this token, a second later. -/
def Transport.issuing : Transport := fun _ =>
  ⟨.ofSeconds 1, .ok ⟨.ok, .empty, Text.Utf8.bytes
    ("\x7b\"access_token\":\"" ++ AccessToken.ofHour.text ++ "\",\"token_type\":\"Bearer\"\x7d")⟩⟩

namespace Crowd

/-- **Two callers**, the second of whom has got the guard after the first one stored a token. -/
theorem orderly_of_two_callers :
    ∃ c, (start (.start 0)).run? .ofKey .issuing
        [.arrive 0, .arrive 1, .acquire 0, .recheck 0, .pass (.ofSeconds 1), .settle 0,
          .acquire 1] = some c ∧
      c.result? 0 = some (.ok .ofHour) ∧ Orderly .ofKey .issuing (start (.start 0)) c := by
  have hresult : (((start (.start 0)).run? .ofKey .issuing
      [.arrive 0, .arrive 1, .acquire 0, .recheck 0, .pass (.ofSeconds 1), .settle 0,
        .acquire 1]).bind (·.result? 0)).bind Except.toOption = some .ofHour := by
    decide +kernel
  obtain ⟨result, hresult, hok⟩ := Option.bind_eq_some_iff.mp hresult
  obtain ⟨c, hrun, hresult⟩ := Option.bind_eq_some_iff.mp hresult
  obtain rfl : result = .ok .ofHour := by
    cases result with
    | ok token => exact congrArg Except.ok (Option.some.inj hok)
    | error failure => cases hok
  exact ⟨c, hrun, hresult, orderly_of_reaches (reaches_of_run? (.refl _) hrun)⟩

end Crowd

end Outbound
