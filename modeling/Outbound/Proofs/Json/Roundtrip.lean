import Outbound.Proofs.Json.Reads

/-!
# Reading what was written

The text of a value is read as this value again. Numbers are left out: a numeral goes on as long as
digits follow, so that it is not read as itself whatever stands behind it.

* **containers** — items and members are read one after another, each by its own reader
  (`reads_items`, `reads_members`); what a reader makes of the members is told by `TakesUp`, which
  goes along them with the state that each leaves;
* **values** — `Wordy n v` if `v` has no numbers in it and is at most `n` containers deep; by
  induction on this, `reads_value`.
-/

namespace Outbound.Json.Reader

open Outbound.Text

variable {α σ : Type}

/-! ## Containers -/

/-- **Rounds bounded by the length** of the text, if the text has a byte for each of them. -/
theorem reads_of_length {loop : Nat → Reader α} {cs : List Char} {a : α} {n : Nat}
    (hn : n ≤ (Utf8.encode cs).length) (h : ∀ rounds, n < rounds → Reads (loop rounds) cs a) :
    Reads (do loop ((← get).length + 1)) cs a := by
  intro rest
  have hlength : n < (Utf8.encode cs ++ rest).length + 1 := by
    rw [List.length_append]
    omega
  exact h _ hlength rest

/-- The text of the items of an array, after its opening bracket. -/
def insideItems : List Value → List Char
  | [] => [']']
  | v :: rest => v.render ++ renderItems rest

/-- The text of the members of an object, after its opening brace. -/
def insideMembers : List (String × Value) → List Char
  | [] => ['\x7d']
  | (name, v) :: rest => renderString name ++ (':' :: v.render ++ renderMembers rest)

theorem render_array (items : List Value) :
    (Value.array items).render = '[' :: insideItems items := by
  cases items with
  | nil => rfl
  | cons v rest => rw [Value.render, insideItems, List.cons_append]

/-- The members after the first are written as the first is, behind a comma. -/
theorem renderMembers_cons (member : String × Value) (rest : List (String × Value)) :
    renderMembers (member :: rest) = ',' :: insideMembers (member :: rest) := by
  rw [renderMembers, insideMembers, List.cons_append, List.cons_append, List.append_assoc]

theorem render_object (members : List (String × Value)) :
    (Value.object members).render = '\x7b' :: insideMembers members := by
  cases members with
  | nil => rfl
  | cons member rest =>
    rw [Value.render, insideMembers, List.cons_append, List.cons_append, List.append_assoc]

/-- **What the text of a value begins with** if a reader of items is to go on. -/
def BeginsItem (cs : List Char) : Prop :=
  ∃ c front, cs = c :: front ∧ BeginsToken c ∧ c ≠ ']'

theorem length_le_renderItems (items : List Value) :
    items.length ≤ (Utf8.encode (renderItems items)).length := by
  induction items with
  | nil => simp
  | cons v rest ih =>
    rw [renderItems, List.cons_append, encode_cons_of_lt (by decide), Utf8.encode_append]
    simp only [List.length_cons, List.length_append]
    omega

theorem length_le_renderMembers (members : List (String × Value)) :
    members.length ≤ (Utf8.encode (renderMembers members)).length := by
  induction members with
  | nil => simp
  | cons member rest ih =>
    rw [renderMembers, List.cons_append, List.cons_append, encode_cons_of_lt (by decide),
      Utf8.encode_append]
    simp only [List.length_cons, List.length_append]
    omega

section Items

variable {item : Reader Value}

theorem BeginsItem.peek_bind {next : Char → Reader α} {cs ds : List Char} {a : α}
    (hbegins : BeginsItem cs) (h : ∀ c, c ≠ ']' → Reads (next c) (cs ++ ds) a) :
    Reads (peek >>= next) (cs ++ ds) a := by
  obtain ⟨c, front, rfl, hc, hclose⟩ := hbegins
  exact .peek_bind hc (h c hclose)

/-- **One item and those behind it.** -/
theorem reads_item (first : Bool) {v : Value} {rest : List Value} {rounds : Nat}
    (hbegins : BeginsItem v.render) (h : Reads item v.render v)
    (hrest : Reads (itemsFrom item false rounds) (renderItems rest) rest) :
    Reads (do
        if !first ∧ (← peek) = ']' then throw .malformed
        return (← item) :: (← itemsFrom item false rounds))
      (v.render ++ renderItems rest) (v :: rest) := by
  refine hbegins.peek_bind fun c hc => ?_
  have hgo : ¬ ((!first) = true ∧ c = ']') := fun h => hc h.2
  change Reads (if (!first) = true ∧ c = ']' then _ else _) _ _
  rw [if_neg hgo]
  exact h.bind (hrest.map _)

theorem reads_itemsFrom_nil {first : Bool} {rounds : Nat} (hrounds : 0 < rounds) :
    Reads (itemsFrom item first rounds) (renderItems []) [] := by
  obtain ⟨rounds, rfl⟩ := Nat.exists_eq_add_of_lt hrounds
  refine .peek_bind (by decide) ?_
  rw [if_pos rfl]
  exact .bind_cons (reads_skip (by decide)) (.pure [])

theorem reads_itemsFrom {items : List Value}
    (h : ∀ v ∈ items, BeginsItem v.render ∧ Reads item v.render v) {rounds : Nat}
    (hrounds : items.length < rounds) :
    Reads (itemsFrom item false rounds) (renderItems items) items := by
  induction items generalizing rounds with
  | nil => exact reads_itemsFrom_nil hrounds
  | cons v rest ih =>
    obtain ⟨rounds, rfl⟩ := Nat.exists_eq_add_of_lt hrounds
    obtain ⟨hbegins, hv⟩ := h v (List.mem_cons_self ..)
    have hrest : Reads (itemsFrom item false ((v :: rest).length + rounds))
        (renderItems rest) rest :=
      ih (fun w hw => h w (List.mem_cons_of_mem v hw)) (by rw [List.length_cons]; omega)
    refine .peek_bind (by decide) ?_
    rw [if_neg (by decide)]
    exact .bind_cons (reads_expect (by decide)) (reads_item false hbegins hv hrest)

/-- **The items of an array**, each of which is read by `item`. -/
theorem reads_items {items : List Value}
    (h : ∀ v ∈ items, BeginsItem v.render ∧ Reads item v.render v) :
    Reads (Reader.items item) (insideItems items) items := by
  cases items with
  | nil =>
    exact reads_of_length (Nat.zero_le _) fun _ hrounds => reads_itemsFrom_nil hrounds
  | cons v rest =>
    obtain ⟨hbegins, hv⟩ := h v (List.mem_cons_self ..)
    refine reads_of_length (n := rest.length + 1) ?_ fun rounds hrounds => ?_
    · obtain ⟨c, front, hrender, hc, -⟩ := hbegins
      have hlength := length_le_renderItems rest
      rw [insideItems, Utf8.encode_append, hrender, encode_cons_of_lt hc.1, List.length_append,
        List.length_cons]
      omega
    · obtain ⟨rounds, rfl⟩ := Nat.exists_eq_add_of_lt hrounds
      have hrest : Reads (itemsFrom item false (rest.length + 1 + rounds))
          (renderItems rest) rest :=
        reads_itemsFrom (fun w hw => h w (List.mem_cons_of_mem v hw)) (by omega)
      refine hbegins.peek_bind fun c hc => ?_
      rw [if_neg hc]
      exact reads_item true hbegins hv hrest

end Items

/-- **Taking up members** one after another, each in the state that the last one left. -/
inductive TakesUp (member : String → σ → Reader σ) : σ → List (String × Value) → σ → Prop
  | nil (s : σ) : TakesUp member s [] s
  | cons {s t u : σ} {name v rest} (first : Reads (member name s) (':' :: v.render) t)
    (others : TakesUp member t rest u) : TakesUp member s ((name, v) :: rest) u

section Members

variable {member : String → σ → Reader σ} {s t : σ}

/-- **One member and those behind it.** -/
theorem reads_member {name : String} {v : Value} {rest : List (String × Value)} {u : σ}
    {rounds : Nat} (h : Reads (member name s) (':' :: v.render) u)
    (hrest : Reads (membersFrom string member false rounds u) (renderMembers rest) t) :
    Reads (do
        expect '"'
        let name ← string
        membersFrom string member false rounds (← member name s))
      (insideMembers ((name, v) :: rest)) t :=
  .bind_cons (reads_expect (by decide)) ((reads_string name).bind (h.bind hrest))

theorem reads_membersFrom_nil {first : Bool} {rounds : Nat} (hrounds : 0 < rounds) :
    Reads (membersFrom string member first rounds s) (renderMembers []) s := by
  obtain ⟨rounds, rfl⟩ := Nat.exists_eq_add_of_lt hrounds
  refine .peek_bind (by decide) ?_
  rw [if_pos rfl]
  exact .bind_cons (reads_skip (by decide)) (.pure s)

theorem reads_membersFrom {members : List (String × Value)} (h : TakesUp member s members t)
    {rounds : Nat} (hrounds : members.length < rounds) :
    Reads (membersFrom string member false rounds s) (renderMembers members) t := by
  induction h generalizing rounds with
  | nil => exact reads_membersFrom_nil hrounds
  | @cons s t u name v rest first others ih =>
    obtain ⟨rounds, rfl⟩ := Nat.exists_eq_add_of_lt hrounds
    rw [renderMembers_cons]
    refine .peek_bind (by decide) ?_
    rw [if_neg (by decide)]
    refine .bind_cons (reads_expect (by decide)) (reads_member first (ih ?_))
    rw [List.length_cons]
    omega

/-- **The members of an object**, taken up one after another. -/
theorem reads_members {members : List (String × Value)} (h : TakesUp member s members t) :
    Reads (Reader.members string member s) (insideMembers members) t := by
  cases h with
  | nil =>
    have hloop : ∀ rounds, 0 < rounds →
        Reads (membersFrom string member true rounds s) (insideMembers []) s :=
      fun _ hrounds => reads_membersFrom_nil hrounds
    exact reads_of_length (Nat.zero_le _) hloop
  | @cons _ u _ name v rest first others =>
    have hloop : ∀ rounds, rest.length + 1 < rounds →
        Reads (membersFrom string member true rounds s) (insideMembers ((name, v) :: rest)) t := by
      intro rounds hrounds
      obtain ⟨rounds, rfl⟩ := Nat.exists_eq_add_of_lt hrounds
      have hothers : Reads (membersFrom string member false (rest.length + 1 + rounds) u)
          (renderMembers rest) t := reads_membersFrom others (by omega)
      refine .peek_bind (by decide) ?_
      rw [if_neg (by decide)]
      exact reads_member first hothers
    have hlength : rest.length + 1 ≤ (Utf8.encode (insideMembers ((name, v) :: rest))).length := by
      have hrest := length_le_renderMembers rest
      rw [insideMembers, Utf8.encode_append, List.cons_append, encode_cons_of_lt (by decide),
        Utf8.encode_append]
      simp only [List.length_append, List.length_cons]
      omega
    exact reads_of_length hlength hloop

end Members

/-! ## Values -/

/-- **Values without numbers**, with at most `n` containers open at a time. -/
inductive Wordy : Nat → Value → Prop
  | null {n} : Wordy n .null
  | bool {n} (b : Bool) : Wordy n (.bool b)
  | string {n} (s : String) : Wordy n (.string s)
  | array {n items} (h : ∀ v ∈ items, Wordy n v) : Wordy (n + 1) (.array items)
  | object {n members} (h : ∀ entry ∈ members, Wordy n entry.2) : Wordy (n + 1) (.object members)

section Values

variable {n : Nat} {v : Value}

theorem Wordy.beginsItem (h : Wordy n v) : BeginsItem v.render := by
  cases h with
  | null => exact ⟨'n', _, rfl, by decide, by decide⟩
  | bool b =>
    cases b with
    | true => exact ⟨'t', _, rfl, by decide, by decide⟩
    | false => exact ⟨'f', _, rfl, by decide, by decide⟩
  | string s => exact ⟨'"', _, rfl, by decide, by decide⟩
  | array h => exact ⟨'[', _, render_array _, by decide, by decide⟩
  | object h => exact ⟨'\x7b', _, render_object _, by decide, by decide⟩

/-- **A value that is no container** is read in the same way at any depth. -/
theorem reads_value_of_scalar {c : Char} {cs : List Char} (hc : BeginsToken c) (harray : c ≠ '[')
    (hobject : c ≠ '\x7b') (h : Reads (scalar c) (c :: cs) v) : Reads (value n) (c :: cs) v := by
  cases n with
  | zero =>
    refine .peek_bind hc ?_
    rw [if_neg (not_or.mpr ⟨harray, hobject⟩)]
    exact h
  | succ n =>
    refine .peek_bind hc ?_
    rw [if_neg harray, if_neg hobject]
    exact h

/-- **A word** is read as the value that it stands for. -/
theorem reads_value_of_word {c : Char} {cs : List Char} (hc : BeginsToken c) (harray : c ≠ '[')
    (hobject : c ≠ '\x7b') (hword : (c :: cs).all (·.toNat < 0x80))
    (h : scalar c = (do word (c :: cs); return v)) : Reads (value n) (c :: cs) v := by
  refine reads_value_of_scalar hc harray hobject ?_
  rw [h]
  exact (reads_word hword).map fun _ => v

/-- **Taking up entries** as a value does, the last one first. -/
theorem takesUp_entries {members : List (String × Value)} {reader : Reader Value}
    (h : ∀ entry ∈ members, Reads reader entry.2.render entry.2) (entries : List (String × Value)) :
    TakesUp (fun name entries => do expect ':'; return (name, ← reader) :: entries) entries members
      (members.reverse ++ entries) := by
  induction members generalizing entries with
  | nil => exact .nil entries
  | cons entry rest ih =>
    have hfirst : Reads (do expect ':'; return (entry.1, ← reader) :: entries)
        (':' :: entry.2.render) (entry :: entries) :=
      .bind_cons (reads_expect (by decide)) ((h entry (List.mem_cons_self ..)).map _)
    have hrest := ih (fun e he => h e (List.mem_cons_of_mem entry he)) (entry :: entries)
    rw [List.reverse_cons, List.append_assoc]
    exact .cons hfirst hrest

/-- **A value is read as itself.** -/
theorem reads_value (h : Wordy n v) : Reads (value n) v.render v := by
  induction h with
  | null => exact reads_value_of_word (by decide) (by decide) (by decide) (by decide) rfl
  | bool b =>
    cases b with
    | true => exact reads_value_of_word (by decide) (by decide) (by decide) (by decide) rfl
    | false => exact reads_value_of_word (by decide) (by decide) (by decide) (by decide) rfl
  | string s =>
    refine reads_value_of_scalar (by decide) (by decide) (by decide) ?_
    exact .bind_cons (reads_skip (by decide)) ((reads_string s).map _)
  | @array n items h ih =>
    rw [render_array]
    refine .peek_bind (by decide) ?_
    rw [if_pos rfl]
    have hitems := reads_items fun v hv => ⟨(h v hv).beginsItem, ih v hv⟩
    exact .bind_cons (reads_skip (by decide)) (hitems.map _)
  | @object n members h ih =>
    rw [render_object]
    refine .peek_bind (by decide) ?_
    rw [if_neg (by decide), if_pos rfl]
    have hmembers := (reads_members (takesUp_entries ih [])).map fun entries =>
      Value.object entries.reverse
    rw [List.append_nil, List.reverse_reverse] at hmembers
    exact .bind_cons (reads_skip (by decide)) hmembers

end Values

end Outbound.Json.Reader
