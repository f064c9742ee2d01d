import Outbound.Proofs.Session.Run

/-!
# The past of an event

What happens in a session is judged by what has happened before. The log has the latest event in
front, so the past of an event is the rest of the log behind it.

* **throughout** — `Throughout` asks for a property of every event, given its past; it is a
  recursion on the log, so recording an event adds one obligation (`throughout_iff` puts it in terms
  of splits);
* **growth** — `Session.Grows` says of which kind the events are that a session has on top of
  another;
* **views** — what is read off the events of a log one by one grows with the log.
-/

namespace Outbound

open Outbound.Time

/-- **Throughout a log**, every event has a property, given its past. -/
def Throughout (P : Event → List Event → Prop) : List Event → Prop
  | [] => True
  | e :: past => P e past ∧ Throughout P past

section Throughout

variable {P Q : Event → List Event → Prop} {new log : List Event}

/-- **Wherever a log is split**, the event has the property, given what is behind it. -/
theorem throughout_iff :
    Throughout P log ↔ ∀ later e past, log = later ++ e :: past → P e past := by
  induction log with
  | nil =>
    refine ⟨fun _ later e past h => ?_, fun _ => trivial⟩
    exact absurd h.symm (List.append_ne_nil_of_right_ne_nil later (List.cons_ne_nil e past))
  | cons e log ih =>
    constructor
    · rintro ⟨he, hlog⟩ later e' past h
      cases later with
      | nil =>
        obtain ⟨rfl, rfl⟩ := List.cons.inj h
        exact he
      | cons _ later => exact ih.mp hlog later e' past (List.cons.inj h).2
    · intro h
      refine ⟨h [] e log rfl, ih.mpr fun later e' past hsplit => ?_⟩
      exact h (e :: later) e' past (by rw [hsplit, List.cons_append])

theorem Throughout.mono (h : Throughout P log) (hPQ : ∀ e past, P e past → Q e past) :
    Throughout Q log := by
  induction log with
  | nil => trivial
  | cons e log ih => exact ⟨hPQ e log h.1, ih h.2⟩

/-- **Two stretches of a log**: the past of an event in the later one goes on into the earlier
one. -/
theorem throughout_append :
    Throughout P (new ++ log) ↔
      Throughout (fun e past => P e (past ++ log)) new ∧ Throughout P log := by
  induction new with
  | nil => exact ⟨fun h => ⟨trivial, h⟩, fun h => h.2⟩
  | cons e new ih =>
    rw [List.cons_append, Throughout, Throughout, ih, and_assoc]

/-- A property that does not depend on the past. -/
theorem throughout_of_forall {p : Event → Prop} (h : ∀ e ∈ log, p e) :
    Throughout (fun e _ => p e) log := by
  induction log with
  | nil => trivial
  | cons e log ih =>
    exact ⟨h e List.mem_cons_self, ih fun e' he' => h e' (List.mem_cons_of_mem e he')⟩

/-- **One place.** A list has only one split at an element of a kind if there is none of this kind
on either side of one split. -/
theorem split_unique {α : Type} {p : α → Prop} {l₁ l₂ r₁ r₂ : List α} {a b : α}
    (h : l₁ ++ a :: r₁ = l₂ ++ b :: r₂) (ha : p a) (hl : ∀ x ∈ l₂, ¬ p x) (hr : ∀ x ∈ r₂, ¬ p x) :
    l₁ = l₂ ∧ a = b ∧ r₁ = r₂ := by
  rcases List.append_eq_append_iff.mp h with ⟨rest, rfl, hrest⟩ | ⟨rest, rfl, hrest⟩
  · rcases List.cons_eq_append_iff.mp hrest with ⟨rfl, hcons⟩ | ⟨rest', rfl, -⟩
    · obtain ⟨rfl, rfl⟩ := List.cons.inj hcons
      exact ⟨(List.append_nil l₁).symm, rfl, rfl⟩
    · exact absurd ha (hl a (List.mem_append_right _ List.mem_cons_self))
  · rcases List.cons_eq_append_iff.mp hrest with ⟨rfl, hcons⟩ | ⟨rest', rfl, rfl⟩
    · obtain ⟨rfl, rfl⟩ := List.cons.inj hcons
      exact ⟨List.append_nil l₂, rfl, rfl⟩
    · exact absurd ha (hr a (List.mem_append_right _ List.mem_cons_self))

end Throughout

/-! ## Growth -/

/-- What is no send is none for any purpose. -/
theorem Event.isSendFor_of_not_isSend {e : Event} (h : e.isSend = false) (purpose : Purpose) :
    e.isSendFor purpose = false := by
  cases e with
  | sent => cases h
  | _ => rfl

/-- **Two stretches** of a log that follow each other are one. -/
theorem Session.log_eq_append {s s₁ s₂ : Session} {es es' : List Event}
    (h' : s₂.log = es' ++ s₁.log) (h : s₁.log = es ++ s.log) : s₂.log = (es' ++ es) ++ s.log := by
  rw [h', h, List.append_assoc]

/-- **Growth**: all that a later session has on top of the log of an earlier one is of some kind. -/
def Session.Grows (p : Event → Prop) (s s' : Session) : Prop :=
  ∃ new, s'.log = new ++ s.log ∧ ∀ e ∈ new, p e

namespace Session.Grows

variable {p q : Event → Prop} {s s₁ s₂ : Session}

theorem of_log_eq (h : s₁.log = s.log) : s.Grows p s₁ :=
  ⟨[], h, fun _ he => absurd he List.not_mem_nil⟩

theorem refl (s : Session) : s.Grows p s := of_log_eq rfl

theorem trans (h₁ : s.Grows p s₁) (h₂ : s₁.Grows p s₂) : s.Grows p s₂ := by
  obtain ⟨new₁, hlog₁, hnew₁⟩ := h₁
  obtain ⟨new₂, hlog₂, hnew₂⟩ := h₂
  refine ⟨new₂ ++ new₁, ?_, fun e he => ?_⟩
  · exact Session.log_eq_append hlog₂ hlog₁
  · rcases List.mem_append.mp he with he | he
    · exact hnew₂ e he
    · exact hnew₁ e he

theorem mono (h : s.Grows p s₁) (hpq : ∀ e, p e → q e) : s.Grows q s₁ := by
  obtain ⟨new, hlog, hnew⟩ := h
  exact ⟨new, hlog, fun e he => hpq e (hnew e he)⟩

/-- **What has happened** stays in the log. -/
theorem suffix (h : s.Grows p s₁) : s.log <:+ s₁.log := by
  obtain ⟨new, hlog, -⟩ := h
  exact ⟨new, hlog.symm⟩

/-- **One more event.** -/
theorem record {e : Event} (h : s.Grows p s₁) (he : p e) : s.Grows p (s₁.record e) :=
  h.trans ⟨[e], rfl, List.forall_mem_singleton.mpr he⟩

theorem foldl_record {es : List Event} (h : s.Grows p s₁) (hes : ∀ e ∈ es, p e) :
    s.Grows p (es.foldl Session.record s₁) := by
  induction es generalizing s₁ with
  | nil => exact h
  | cons e es ih =>
    obtain ⟨he, hes⟩ := List.forall_mem_cons.mp hes
    exact ih (h.record he) hes

/-- What was asked for before is still in the log. -/
theorem authentications_le (h : s.Grows p s₁) : s.authentications ≤ s₁.authentications := by
  obtain ⟨new, hlog, -⟩ := h
  rw [Session.authentications, Session.authentications, hlog, List.countP_append]
  exact Nat.le_add_left _ _

end Session.Grows

/-! ## Views -/

namespace Session

variable {α : Type} (read : Event → Option α) {s s' : Session}

/-- **Reading on**: what is read off further events comes behind what was read before. -/
theorem filterMap_events_of_log {new : List Event} (h : s'.log = new ++ s.log) :
    s'.events.filterMap read = s.events.filterMap read ++ new.reverse.filterMap read := by
  rw [events, h, List.reverse_append, List.filterMap_append]
  rfl

/-- From one more event at most one thing is read. -/
theorem filterMap_events_record (s : Session) (e : Event) :
    (s.record e).events.filterMap read = s.events.filterMap read ++ (read e).toList := by
  rw [events_record, List.filterMap_append]
  cases h : read e <;> simp [h]

variable {read} in
/-- From events of which nothing is read, nothing comes. -/
theorem Grows.filterMap_events_eq (h : s.Grows (fun e => read e = none) s') :
    s'.events.filterMap read = s.events.filterMap read := by
  obtain ⟨new, hlog, hnew⟩ := h
  have hnone : new.reverse.filterMap read = [] :=
    List.filterMap_eq_nil_iff.mpr fun e he => hnew e (List.mem_reverse.mp he)
  rw [filterMap_events_of_log read hlog, hnone, List.append_nil]

end Session

end Outbound
