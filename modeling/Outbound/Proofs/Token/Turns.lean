import Outbound.Proofs.Token.Steps

/-!
# Callers at once and in turn

Callers who all begin before any of them is answered get what they would get one after another.

* **turns** — the first turn of a caller sends at most one request (`begin_hit`, `begin_first`,
  `begin_behind`); with its last turn it is served as by a look-up of its own (`Served`);
* **hit** — while the kept token is valid, everybody is answered at the beginning (`begin_all_hit`);
* **miss** — otherwise the first caller exchanges and the others wait, each of whom is then served
  in the session that the one before has left (`conclude_all`);
* **schedules** — so everybody is served in turn, whoever they are (`servedInTurn`); and every turn
  consists of moves that can happen (`reaches_turns`).
-/

namespace Outbound

open Outbound.Time

namespace Crowd

variable {i : Issuer} {t : Transport} {c e : Crowd} {n m : Nat} {s : Session}

/-! ## Moves that are tried -/

theorem attempt_eq {move : Move} (h : c.step? i t move = some e) : c.attempt i t move = e := by
  rw [attempt, h]
  rfl

/-- A move that cannot happen changes nothing. -/
theorem attempt_eq_self {move : Move} (h : ∀ e, c.step? i t move ≠ some e) :
    c.attempt i t move = c := by
  rw [attempt]
  rcases hs : c.step? i t move with _ | e
  · rfl
  · exact absurd hs (h e)

theorem attempt_acquire_of_ne (h : c.phase n ≠ .needing) : c.attempt i t (.acquire n) = c :=
  attempt_eq_self fun _ he => h ((step?_acquire i t).mp he).1

theorem attempt_acquire_of_held (h : c.holder = some m) : c.attempt i t (.acquire n) = c :=
  attempt_eq_self fun _ he => by
    have hnone := ((step?_acquire i t).mp he).2.1
    rw [h] at hnone
    cases hnone

theorem attempt_recheck_of_ne (h : c.phase n ≠ .guarding) : c.attempt i t (.recheck n) = c :=
  attempt_eq_self fun _ he => h ((step?_recheck i t).mp he).1

theorem attempt_settle_of_ne (h : ∀ outcome due, c.phase n ≠ .exchanging outcome due) :
    c.attempt i t (.settle n) = c :=
  attempt_eq_self fun _ he => by
    obtain ⟨outcome, due, hp, -⟩ := (step?_settle i t).mp he
    exact h outcome due hp

/-! ## The first turn -/

/-- **Hit**: the caller is answered on arrival. -/
theorem begin_hit {token : AccessToken} (hp : c.phase n = .away)
    (hv : c.session.validToken? = some token) :
    c.begin i t n = (c.note n).put n (.answered (.kept token c.session.now)) := by
  have harrive := attempt_eq ((step?_arrive i t).mpr ⟨hp, arrive_hit hv⟩)
  rw [begin, harrive, attempt_acquire_of_ne (by simp), attempt_recheck_of_ne (by simp)]

/-- **First**: while the guard is free, a caller who misses takes it and sends a request. -/
theorem begin_first (hp : c.phase n = .away) (hh : c.holder = none)
    (hv : c.session.validToken? = none) :
    c.begin i t n =
      ((((c.note n).put n .needing).put n .guarding).guardedBy (some n)).recheck i t n := by
  have harrive := attempt_eq ((step?_arrive i t).mpr ⟨hp, arrive_miss hv⟩)
  have hacquire : ((c.note n).put n .needing).attempt i t (.acquire n) =
      (((c.note n).put n .needing).put n .guarding).guardedBy (some n) :=
    attempt_eq ((step?_acquire i t).mpr ⟨phase_put_self, hh, rfl⟩)
  rw [begin, harrive, hacquire]
  exact attempt_eq ((step?_recheck i t).mpr ⟨phase_put_self, rfl⟩)

/-- **Behind**: while somebody has the guard, a caller who misses needs it. -/
theorem begin_behind (hp : c.phase n = .away) (hh : c.holder = some m)
    (hv : c.session.validToken? = none) :
    c.begin i t n = (c.note n).put n .needing := by
  have harrive := attempt_eq ((step?_arrive i t).mpr ⟨hp, arrive_miss hv⟩)
  have hacquire : ((c.note n).put n .needing).attempt i t (.acquire n) =
      (c.note n).put n .needing := attempt_acquire_of_held hh
  rw [begin, harrive, hacquire, attempt_recheck_of_ne (by simp)]

/-! ## The last turn -/

/-- **Served**: from `c` to `e` the caller has got the answer of a look-up in the session `s`, which
stands in between, and the guard is free. The others are where they were. -/
structure Served (i : Issuer) (t : Transport) (n : Nat) (s : Session) (c e : Crowd) : Prop where
  session : e.session = ((i.token t).run s).2
  result : e.result? n = some ((i.token t).run s).1
  holder : e.holder = none
  others : ∀ m, m ≠ n → e.phase m = c.phase m

/-- The time that is left until an instant some time later. -/
theorem left_after (now : Instant) (d : Duration) :
    (⟨(Instant.after now d - now).toNat⟩ : Duration) = d := by
  have hleft : Instant.after now d - now = d.nanos := by
    rw [Instant.after, Int.add_comm, Int.add_sub_cancel]
  rw [hleft, Int.toNat_natCast]

/-- What is left of the last turn with the guard and the second look. -/
def finish (i : Issuer) (t : Transport) (c : Crowd) (n : Nat) : Crowd :=
  c.attempt i t (.pass (c.untilDue n)) |>.attempt i t (.settle n)

theorem conclude_eq_finish (i : Issuer) (t : Transport) (c : Crowd) (n : Nat) :
    c.conclude i t n =
      finish i t ((c.attempt i t (.acquire n)).attempt i t (.recheck n)) n := rfl

/-- A caller who has been answered has nothing left to do. -/
theorem finish_of_answered {answer : Answer} (hp : c.phase n = .answered answer) :
    finish i t c n = c := by
  have hpass : c.attempt i t (.pass (c.untilDue n)) = c := by
    refine attempt_eq ((step?_pass i t _).mpr ?_)
    rw [untilDue, hp]
    simp [around, Session.later, Instant.after]
  rw [finish, hpass]
  exact attempt_settle_of_ne fun outcome due => by simp [hp]

/-- **The reply** to the request of a look-up in `s` serves the caller who sent it. -/
theorem served_finish (hv : s.validToken? = none) (hs : c.session = i.asked s)
    (hp : c.phase n = .exchanging (t s.sends).outcome
      (Instant.after s.now (t s.sends).delay)) :
    Served i t n s c (finish i t c n) := by
  have hdue : c.untilDue n = (t s.sends).delay := by
    rw [untilDue, hp, hs, Issuer.now_asked]
    exact left_after s.now _
  have hpass : c.attempt i t (.pass (c.untilDue n)) =
      c.around ((i.asked s).later (t s.sends).delay) := by
    refine attempt_eq ((step?_pass i t _).mpr ?_)
    rw [hdue, hs]
  have hsettle := attempt_eq ((step?_settle i t (c := c.around ((i.asked s).later
    (t s.sends).delay))).mpr ⟨_, _, hp, Int.le_refl _, settle_eq _⟩)
  have hrun : (i.token t).run s = _ :=
    (i.token_miss t hv).trans ((i.run_exchange t s).trans (Issuer.run_settle _ _))
  rw [finish, hpass, hsettle]
  refine ⟨?_, ?_, rfl, fun m hm => phase_put_of_ne hm⟩
  · rw [hrun]
    rfl
  · rw [hrun, result?]
    simp [Answer.result]

/-- **A second look**: with the guard, the caller is served by the kept token or by a request. -/
theorem served_recheck :
    Served i t n c.session c (finish i t (c.recheck i t n) n) := by
  rcases hv : c.session.validToken? with _ | token
  · rw [recheck_miss hv]
    have hserved := served_finish (i := i) (t := t) (n := n) (c := (c.put n (.exchanging
      (t c.session.sends).outcome (Instant.after c.session.now (t c.session.sends).delay))).around
      (i.asked c.session)) hv rfl phase_put_self
    refine ⟨hserved.session, hserved.result, hserved.holder, fun m hm => ?_⟩
    rw [hserved.others m hm, phase_around, phase_put_of_ne hm]
  · have hanswered : ((c.put n (.answered (.kept token c.session.now))).guardedBy none).phase n =
        .answered (.kept token c.session.now) := phase_put_self
    rw [recheck_hit hv, finish_of_answered hanswered]
    refine ⟨?_, ?_, rfl, fun m hm => ?_⟩
    · rw [i.token_hit t hv]
      rfl
    · rw [i.token_hit t hv, result?]
      simp [Answer.result]
    · rw [phase_guardedBy, phase_put_of_ne hm]

/-- **The last turn of a caller who needs the guard**, when it is free. -/
theorem served_conclude (hp : c.phase n = .needing) (hh : c.holder = none) :
    Served i t n c.session c (c.conclude i t n) := by
  have hacquire := attempt_eq ((step?_acquire i t).mpr ⟨hp, hh, rfl⟩)
  have hrecheck := attempt_eq ((step?_recheck i t
    (c := (c.put n .guarding).guardedBy (some n))).mpr ⟨phase_put_self, rfl⟩)
  rw [conclude_eq_finish, hacquire, hrecheck]
  have hserved := served_recheck (i := i) (t := t) (n := n)
    (c := (c.put n .guarding).guardedBy (some n))
  refine ⟨hserved.session, hserved.result, hserved.holder, fun m hm => ?_⟩
  rw [hserved.others m hm, phase_guardedBy, phase_put_of_ne hm]

/-- **The last turn of the first caller**, whose request is under way. -/
theorem served_conclude_first (hv : s.validToken? = none) (hs : c.session = i.asked s)
    (hp : c.phase n = .exchanging (t s.sends).outcome
      (Instant.after s.now (t s.sends).delay)) :
    Served i t n s c (c.conclude i t n) := by
  rw [conclude_eq_finish, attempt_acquire_of_ne (by simp [hp]),
    attempt_recheck_of_ne (by simp [hp])]
  exact served_finish hv hs hp

/-- A caller who has a result has nothing left to do. -/
theorem conclude_of_result {result : Except Failure AccessToken} (h : c.result? n = some result) :
    c.conclude i t n = c := by
  rw [result?] at h
  split at h
  · next answer hp =>
    rw [conclude_eq_finish, attempt_acquire_of_ne (by simp [hp]),
      attempt_recheck_of_ne (by simp [hp])]
    exact finish_of_answered hp
  · cases h

/-! ## All turns -/

/-- **Served in turn**: from `c` to `e` the callers of a list have got the answers of as many
look-ups one after another, which begin in the session `s`. -/
structure ServedInTurn (i : Issuer) (t : Transport) (l : List Nat) (s : Session) (c e : Crowd) :
    Prop where
  session : e.session = ((i.tokensInTurn t l.length).run s).2
  results : l.map e.result? = ((i.tokensInTurn t l.length).run s).1.map some
  others : ∀ m, m ∉ l → e.phase m = c.phase m

theorem result?_congr (h : e.phase n = c.phase n) : e.result? n = c.result? n := by
  rw [result?, result?, h]

/-- **Everybody behind the first** is served after it. -/
theorem ServedInTurn.cons {d : Crowd} {l : List Nat} (hn : n ∉ l) (hserved : Served i t n s c d)
    (hrest : ServedInTurn i t l d.session d e) : ServedInTurn i t (n :: l) s c e := by
  have hrun : (i.tokensInTurn t (n :: l).length).run s =
      (((i.token t).run s).1 :: ((i.tokensInTurn t l.length).run d.session).1,
        ((i.tokensInTurn t l.length).run d.session).2) := by
    rw [hserved.session]
    rfl
  refine ⟨?_, ?_, fun m hm => ?_⟩
  · rw [hrun, hrest.session]
  -- the first caller keeps its answer while the others are served
  · have hfirst : e.result? n = some ((i.token t).run s).1 :=
      (result?_congr (hrest.others n hn)).trans hserved.result
    rw [hrun, List.map_cons, List.map_cons, hfirst, hrest.results]
  · rw [List.mem_cons, not_or] at hm
    rw [hrest.others m hm.2, hserved.others m hm.1]

/-- The answers, in the order of the callers. -/
theorem ServedInTurn.filterMap_result? {l : List Nat} {d : Crowd}
    (hserved : ServedInTurn i t l s d c) :
    l.filterMap c.result? = ((i.tokensInTurn t l.length).run s).1 := by
  calc l.filterMap c.result?
      = (l.map c.result?).filterMap id := by rw [List.filterMap_map]; rfl
    _ = (((i.tokensInTurn t l.length).run s).1.map some).filterMap id := by rw [hserved.results]
    _ = ((i.tokensInTurn t l.length).run s).1 := by
        rw [List.filterMap_map]
        exact List.filterMap_some

/-- **A turn each.** If a turn serves everybody who is ready for it and leaves the others ready,
then the turns of a list serve its callers. -/
theorem servedInTurn_foldl (turn : Crowd → Nat → Crowd) (Ready : Crowd → Nat → Prop)
    (hserve : ∀ c n, Ready c n → Served i t n c.session c (turn c n))
    (hready : ∀ c n m, Ready c n → Ready c m → m ≠ n → Ready (turn c n) m) :
    ∀ (l : List Nat) (c : Crowd), l.Nodup → (∀ n ∈ l, Ready c n) →
      ServedInTurn i t l c.session c (l.foldl turn c) := by
  intro l
  induction l with
  | nil =>
    intro c _ _
    exact ⟨rfl, rfl, fun _ _ => rfl⟩
  | cons n l ih =>
    intro c hnodup hall
    obtain ⟨hn, hl⟩ := List.nodup_cons.mp hnodup
    have hfirst : Ready c n := hall n List.mem_cons_self
    refine ServedInTurn.cons hn (hserve c n hfirst) (ih (turn c n) hl fun m hm => ?_)
    refine hready c n m hfirst (hall m (List.mem_cons_of_mem n hm)) fun hmn => ?_
    exact hn (hmn ▸ hm)

/-- **Hit**: while the kept token is valid, everybody is served at the beginning. -/
theorem begin_all_hit {token : AccessToken} {l : List Nat} (hl : l.Nodup)
    (hp : ∀ n ∈ l, c.phase n = .away) (hh : c.holder = none)
    (hv : c.session.validToken? = some token) :
    ServedInTurn i t l c.session c (l.foldl (·.begin i t ·) c) := by
  refine servedInTurn_foldl (·.begin i t ·) (fun c n =>
    c.phase n = .away ∧ c.holder = none ∧ c.session.validToken? = some token) ?_ ?_ l c hl
      fun n hn => ⟨hp n hn, hh, hv⟩
  · rintro c n ⟨hp, hh, hv⟩
    rw [begin_hit hp hv]
    refine ⟨?_, ?_, hh, fun m hm => phase_put_of_ne hm⟩
    · rw [i.token_hit t hv]
      rfl
    · rw [i.token_hit t hv, result?]
      simp [Answer.result]
  · rintro c n m ⟨hp, hh, hv⟩ ⟨hpm, -, -⟩ hmn
    rw [begin_hit hp hv]
    exact ⟨(phase_put_of_ne hmn).trans hpm, hh, hv⟩

/-- Callers who have been served have nothing left to do. -/
theorem conclude_all_served {l : List Nat} {d : Crowd} (hserved : ServedInTurn i t l s d c) :
    ∀ l', l' ⊆ l → l'.foldl (·.conclude i t ·) c = c := by
  intro l'
  induction l' with
  | nil => exact fun _ => rfl
  | cons n l' ih =>
    intro hsub
    obtain ⟨hn, hl'⟩ := List.cons_subset.mp hsub
    have hmem : c.result? n ∈ ((i.tokensInTurn t l.length).run s).1.map some :=
      hserved.results ▸ List.mem_map_of_mem hn
    obtain ⟨result, -, hresult⟩ := List.mem_map.mp hmem
    rw [List.foldl_cons, conclude_of_result hresult.symm]
    exact ih hl'

/-- **Behind**: while somebody has the guard, everybody who misses comes to need it. -/
theorem begin_all_behind {l : List Nat} :
    ∀ c : Crowd, l.Nodup → (∀ n ∈ l, c.phase n = .away) → c.holder = some m →
      c.session.validToken? = none →
      (l.foldl (·.begin i t ·) c).session = c.session ∧
      (∀ n ∈ l, (l.foldl (·.begin i t ·) c).phase n = .needing) ∧
      ∀ n, n ∉ l → (l.foldl (·.begin i t ·) c).phase n = c.phase n := by
  induction l with
  | nil =>
    intro c _ _ _ _
    exact ⟨rfl, fun n hn => absurd hn List.not_mem_nil, fun _ _ => rfl⟩
  | cons n l ih =>
    intro c hnodup hp hh hv
    obtain ⟨hn, hl⟩ := List.nodup_cons.mp hnodup
    have hbegin := begin_behind (i := i) (t := t) (hp n List.mem_cons_self) hh hv
    have haway : ∀ k ∈ l, ((c.note n).put n .needing).phase k = .away := by
      intro k hk
      have hkn : k ≠ n := fun h => hn (h ▸ hk)
      exact (phase_put_of_ne hkn).trans (hp k (List.mem_cons_of_mem n hk))
    obtain ⟨hsession, hneeding, hothers⟩ := ih ((c.note n).put n .needing) hl haway hh hv
    rw [List.foldl_cons, hbegin]
    refine ⟨hsession, fun k hk => ?_, fun k hk => ?_⟩
    · rcases List.mem_cons.mp hk with rfl | hk
      · exact (hothers k hn).trans phase_put_self
      · exact hneeding k hk
    · rw [List.mem_cons, not_or] at hk
      exact (hothers k hk.2).trans (phase_put_of_ne hk.1)

/-- **Waiters** are served in the order in which they get the guard. -/
theorem conclude_all_needing {l : List Nat} (hl : l.Nodup) (hp : ∀ n ∈ l, c.phase n = .needing)
    (hh : c.holder = none) :
    ServedInTurn i t l c.session c (l.foldl (·.conclude i t ·) c) := by
  refine servedInTurn_foldl (·.conclude i t ·) (fun c n => c.phase n = .needing ∧ c.holder = none)
    ?_ ?_ l c hl fun n hn => ⟨hp n hn, hh⟩
  · rintro c n ⟨hp, hh⟩
    exact served_conclude hp hh
  · rintro c n m ⟨hp, hh⟩ ⟨hpm, -⟩ hmn
    have hserved := served_conclude (i := i) (t := t) hp hh
    exact ⟨(hserved.others m hmn).trans hpm, hserved.holder⟩

/-- **Miss**: the request of the first caller serves it; the others wait for the guard and are
served in the sessions that those before them leave. -/
theorem servedInTurn_of_miss {l : List Nat} (hl : (n :: l).Nodup)
    (hv : s.validToken? = none) :
    ServedInTurn i t (n :: l) s (start s)
      ((n :: l).foldl (·.conclude i t ·) ((n :: l).foldl (·.begin i t ·) (start s))) := by
  obtain ⟨hn, hl⟩ := List.nodup_cons.mp hl
  -- the first caller has asked, and nobody else has moved
  let d := (start s).begin i t n
  have hd : d = _ := (begin_first rfl rfl hv).trans (recheck_miss hv)
  have hothers : ∀ m, m ≠ n → d.phase m = .away := by
    intro m hm
    rw [hd, phase_around, phase_put_of_ne hm, phase_guardedBy, phase_put_of_ne hm,
      phase_put_of_ne hm]
    rfl
  have hholder : d.holder = some n := by
    rw [hd]
    rfl
  have hmiss : d.session.validToken? = none := by
    rw [hd]
    exact hv
  obtain ⟨hsession, hneeding, hrest⟩ := begin_all_behind (i := i) (t := t) d hl
    (fun m hm => hothers m fun h => hn (h ▸ hm)) hholder hmiss
  -- when its reply has come, the guard goes round
  have hfirst : Served i t n s (l.foldl (·.begin i t ·) d) _ :=
    served_conclude_first hv (hsession.trans (congrArg session hd)) ((hrest n hn).trans (by
      rw [hd]
      exact phase_put_self))
  have hbehind := conclude_all_needing (i := i) (t := t) hl
    (fun m hm => (hfirst.others m fun h => hn (h ▸ hm)).trans (hneeding m hm)) hfirst.holder
  have hserved := ServedInTurn.cons hn hfirst hbehind
  refine ⟨hserved.session, hserved.results, fun m hm => ?_⟩
  rw [List.mem_cons, not_or] at hm
  exact (hserved.others m (by simp [hm])).trans ((hrest m hm.2).trans (hothers m hm.1))

/-- **All callers of a list** are served in turn, if each has a first and a last turn. -/
theorem servedInTurn (i : Issuer) (t : Transport) {l : List Nat} (hl : l.Nodup) (s : Session) :
    ServedInTurn i t l s (start s)
      (l.foldl (·.conclude i t ·) (l.foldl (·.begin i t ·) (start s))) := by
  rcases hv : s.validToken? with _ | token
  · rcases l with _ | ⟨n, l⟩
    · exact ⟨rfl, rfl, fun _ _ => rfl⟩
    · exact servedInTurn_of_miss hl hv
  · have hserved := begin_all_hit (i := i) (t := t) (c := start s) hl (fun _ _ => rfl) rfl hv
    rw [conclude_all_served hserved l (List.Subset.refl l)]
    exact hserved

/-! ## Schedules are runs -/

theorem Reaches.attempt {o : Crowd} (h : Reaches i t o c) (move : Move) :
    Reaches i t o (c.attempt i t move) := by
  rcases hs : c.step? i t move with _ | e
  · rw [attempt_eq_self fun e he => by rw [hs] at he; cases he]
    exact h
  · rw [attempt_eq hs]
    exact h.step hs

theorem Reaches.foldl {o : Crowd} {turn : Crowd → Nat → Crowd}
    (hturn : ∀ c n, Reaches i t o c → Reaches i t o (turn c n)) (l : List Nat) :
    ∀ c, Reaches i t o c → Reaches i t o (l.foldl turn c) := by
  induction l with
  | nil => exact fun _ h => h
  | cons n l ih => exact fun c h => ih (turn c n) (hturn c n h)

/-- **Schedules are runs**: wherever the turns of a list of callers lead to is reached by moves. -/
theorem reaches_turns (l : List Nat) (s : Session) :
    Reaches i t (start s)
      (l.foldl (·.conclude i t ·) (l.foldl (·.begin i t ·) (start s))) := by
  refine Reaches.foldl (fun c n h => ?_) l _ (Reaches.foldl (fun c n h => ?_) l _ (.refl _))
  · exact (((h.attempt _).attempt _).attempt _).attempt _
  · exact ((h.attempt _).attempt _).attempt _

end Crowd

namespace Issuer

/-- **At once or in turn.** Callers who all begin before any of them is answered, and to whom the
guard then goes in their order, get the answers that they would get one after another. The session
is the same afterwards: the requests and their times, all that was counted, the kept token and the
time. -/
theorem tokensAtOnce_eq_tokensInTurn (i : Issuer) (t : Transport) (n : Nat) (s : Session) :
    i.tokensAtOnce t n s = (i.tokensInTurn t n).run s := by
  have hserved := Crowd.servedInTurn i t (List.nodup_range (n := n)) s
  have hlength : (List.range n).length = n := List.length_range
  refine Prod.ext ?_ ?_
  · exact hserved.filterMap_result?.trans (by rw [hlength])
  · exact hserved.session.trans (by rw [hlength])

end Issuer

end Outbound
