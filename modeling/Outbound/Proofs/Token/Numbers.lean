import Outbound.Proofs.Text.Numeral
import Outbound.Token.Access

/-!
# Claims as numbers and as text

A claim can be asked for as a number and as text. The two accessors look at the same value and agree
on what it is: they miss the same claims, and the text of what is a number writes this number.

* **writing** — `Claims.Writes`: the values that write an integer, a whole number or a string that
  is its numeral without the blanks around it; each writes one only (`Writes.unique`), and none that
  has a fraction or an exponent does (`not_writes_of_parted`);
* **accessors** — as functions of the value (`numeric_of_writes`, `numeric_of_not_writes`,
  `text_of_get?`); what is written as text writes the same integer (`Writes.numeral_textOf`);
* **respelling** — `Claims.Respelled`: claims that differ in the spelling of integers only. No
  accessor for numbers tells them apart (`Respelled.numeric_eq`), and so no deadline does
  (`Respelled.issued_eq`).
-/

namespace Outbound.Claims

open Outbound.Json Outbound.Text

/-! ## Writing an integer -/

/-- **Values that write an integer.** -/
inductive Writes : Value → Int → Prop
  | number (n : Int) : Writes (.number (.whole n)) n
  | string {s : String} {n : Int} (h : Numeral (trim s.toList) n) : Writes (.string s) n

theorem Writes.unique {v : Value} {m n : Int} (hm : Writes v m) (hn : Writes v n) : m = n := by
  cases hm with
  | number => cases hn with | number => rfl
  | string hm =>
    cases hn with
    | string hn => rw [← Option.some.injEq, ← hm.int?_eq, hn.int?_eq]

/-- **The text of what writes an integer** writes it too. -/
theorem Writes.numeral_textOf {v : Value} {n : Int} (h : Writes v n) :
    Numeral (trim (textOf v).toList) n := by
  cases h with
  | number =>
    have hnumeral := Numeral.of_toString n
    have hblank : ∀ c ∈ ([] : List Char), isBlank c := List.forall_mem_nil _
    have htrim := hnumeral.trim_append_append hblank hblank
    rw [List.nil_append, List.append_nil] at htrim
    change Numeral (trim (String.ofList (toString n).toList).toList) n
    rwa [String.toList_ofList, htrim]
  | string h => exact h

/-- **A fraction or an exponent** makes a number a double, whether it is integral or not. -/
theorem not_writes_of_parted {numeral : Reader.Numeral} {number : Number}
    (hparted : numeral.fraction ≠ [] ∨ numeral.exponent ≠ none)
    (hvalue : numeral.value? = some number) (n : Int) : ¬ Writes (.number number) n := by
  rintro ⟨⟩
  unfold Reader.Numeral.value? at hvalue
  dsimp only at hvalue
  split at hvalue
  · next hwhole =>
    obtain ⟨-, hfraction, hexponent, -⟩ := hwhole
    rcases hparted with h | h
    · exact h (List.isEmpty_iff.mp hfraction)
    · exact h (Option.isNone_iff_eq_none.mp hexponent)
  · obtain ⟨_, -, hdouble⟩ := Option.map_eq_some_iff.mp hvalue
    cases hdouble

/-! ## Accessors -/

section Accessors

variable {c : Claims} {name : String} {v : Value} {n : Int}

/-- **Missing**: there is no such claim, or it is `null`. -/
def Missing (c : Claims) (name : String) : Prop :=
  get? name c.payload = none ∨ get? name c.payload = some .null

theorem numeric_of_missing (h : c.Missing name) : c.numeric name = .ok none := by
  rcases h with h | h <;> simp only [numeric, h]

theorem text_of_missing (h : c.Missing name) : c.text name = none := by
  rcases h with h | h <;> simp only [text, h]

/-- **Any other claim** has a text. -/
theorem text_of_get? (hv : get? name c.payload = some v) (hnull : v ≠ .null) :
    c.text name = some (textOf v) := by
  unfold text
  split
  · next h => cases hv.symm.trans h
  · next h => exact absurd (Option.some.inj (hv.symm.trans h)) hnull
  · next h => rw [Option.some.inj (hv.symm.trans h)]

/-- **An integer of 64 bits**, however it is written. -/
theorem numeric_of_writes (hv : get? name c.payload = some v) (hn : Writes v n)
    (hfits : FitsInt64 n) :
    c.numeric name = .ok (some n) := by
  cases hn with
  | number => simp only [numeric, hv, if_pos hfits]
  | string h => simp only [numeric, hv, int64?_eq_some_iff.mpr ⟨h, hfits⟩]

/-- **Anything else** is of the wrong type. -/
theorem numeric_of_not_writes (hv : get? name c.payload = some v) (hnull : v ≠ .null)
    (hn : ∀ n, Writes v n → ¬ FitsInt64 n) :
    c.numeric name = .error (.unexpectedClaimType name) := by
  cases v with
  | null => exact absurd rfl hnull
  | number number =>
    cases number with
    | whole n => simp only [numeric, hv, if_neg (hn n (.number n))]
    | double x => simp only [numeric, hv]
  | string s =>
    have hread : int64? (trim s.toList) = none := by
      refine Option.eq_none_iff_forall_ne_some.mpr fun n hsome => ?_
      obtain ⟨hnumeral, hfits⟩ := int64?_eq_some_iff.mp hsome
      exact hn n (.string hnumeral) hfits
    simp only [numeric, hv, hread]
  | _ => simp only [numeric, hv]

variable (c name) in
/-- **Three kinds of claims**: missing ones, integers of 64 bits, and the others. -/
theorem missing_or_get? : c.Missing name ∨ ∃ v, get? name c.payload = some v ∧ v ≠ .null ∧
    ((∃ n, Writes v n ∧ FitsInt64 n) ∨ ∀ n, Writes v n → ¬ FitsInt64 n) := by
  rcases hv : get? name c.payload with _ | v
  · exact .inl (.inl hv)
  · by_cases hnull : v = .null
    · exact .inl (.inr (by rw [hv, hnull]))
    · refine .inr ⟨v, rfl, hnull, ?_⟩
      by_cases hn : ∃ n, Writes v n ∧ FitsInt64 n
      · exact .inl hn
      · exact .inr fun n hwrites hfits => hn ⟨n, hwrites, hfits⟩

theorem text_eq_none_iff : c.text name = none ↔ c.Missing name := by
  refine ⟨fun h => ?_, text_of_missing⟩
  rcases c.missing_or_get? name with hmissing | ⟨v, hv, hnull, -⟩
  · exact hmissing
  · rw [text_of_get? hv hnull] at h
    cases h

theorem numeric_eq_none_iff : c.numeric name = .ok none ↔ c.Missing name := by
  refine ⟨fun h => ?_, numeric_of_missing⟩
  rcases c.missing_or_get? name with hmissing | ⟨v, hv, hnull, ⟨n, hn, hfits⟩ | hn⟩
  · exact hmissing
  · rw [numeric_of_writes hv hn hfits] at h
    cases h
  · rw [numeric_of_not_writes hv hnull hn] at h
    cases h

/-- **A number** is an integer of 64 bits that the claim writes. -/
theorem numeric_eq_some_iff :
    c.numeric name = .ok (some n) ↔
      ∃ v, get? name c.payload = some v ∧ Writes v n ∧ FitsInt64 n := by
  constructor
  · intro h
    rcases c.missing_or_get? name with hmissing | ⟨v, hv, hnull, ⟨m, hm, hfits⟩ | hn⟩
    · rw [numeric_of_missing hmissing] at h
      cases h
    · rw [numeric_of_writes hv hm hfits] at h
      cases h
      exact ⟨v, hv, hm, hfits⟩
    · rw [numeric_of_not_writes hv hnull hn] at h
      cases h
  · rintro ⟨v, hv, hn, hfits⟩
    exact numeric_of_writes hv hn hfits

/-- **A wrong type** is reported of all claims that are there and write no integer of 64 bits. -/
theorem numeric_eq_error_iff {e : TokenFailure} :
    c.numeric name = .error e ↔ e = .unexpectedClaimType name ∧
      ∃ v, get? name c.payload = some v ∧ v ≠ .null ∧ ∀ n, Writes v n → ¬ FitsInt64 n := by
  constructor
  · intro h
    rcases c.missing_or_get? name with hmissing | ⟨v, hv, hnull, ⟨m, hm, hfits⟩ | hn⟩
    · rw [numeric_of_missing hmissing] at h
      cases h
    · rw [numeric_of_writes hv hm hfits] at h
      cases h
    · rw [numeric_of_not_writes hv hnull hn] at h
      cases h
      exact ⟨rfl, v, hv, hnull, hn⟩
  · rintro ⟨rfl, v, hv, hnull, hn⟩
    exact numeric_of_not_writes hv hnull hn

end Accessors

/-! ## Respelling -/

/-- **Respelled**: of each name there is the same claim, or there are two that write the same
integer. -/
def Respelled (c d : Claims) : Prop :=
  ∀ name, get? name d.payload = get? name c.payload ∨
    ∃ v w n, get? name c.payload = some v ∧ get? name d.payload = some w ∧ Writes v n ∧ Writes w n

variable {c d : Claims}

/-- What writes an integer is not `null`. -/
theorem Writes.ne_null {v : Value} {n : Int} (h : Writes v n) : v ≠ .null := by
  rintro rfl
  cases h

/-- **The spelling does not matter** to a number, nor to what is wrong with it. -/
theorem Respelled.numeric_eq (h : c.Respelled d) (name : String) :
    d.numeric name = c.numeric name := by
  rcases h name with hsame | ⟨v, w, n, hv, hw, hvn, hwn⟩
  · simp only [numeric, hsame]
  · by_cases hfits : FitsInt64 n
    · rw [numeric_of_writes hv hvn hfits, numeric_of_writes hw hwn hfits]
    · have hnot {u : Value} (hu : Writes u n) : ∀ m, Writes u m → ¬ FitsInt64 m :=
        fun m hm => hm.unique hu ▸ hfits
      rw [numeric_of_not_writes hv hvn.ne_null (hnot hvn),
        numeric_of_not_writes hw hwn.ne_null (hnot hwn)]

/-- Nor does it matter to the token that is issued. -/
theorem Respelled.issued_eq (h : c.Respelled d) (token : String) :
    AccessToken.issued token d = AccessToken.issued token c := by
  simp only [AccessToken.issued, issuedAt, expiresAt, h.numeric_eq]

/-- **Numbers and texts agree** on every claim. They miss the same ones. What is a number has a text
that is its numeral, but for blanks; it is a number exactly if an integer of 64 bits is written, and
any other claim is of the wrong type, as is every number with a fraction or an exponent. With its
integers spelled in another way, a token is issued with the same deadline or refused for the same
reason. -/
theorem numbers_agree_with_texts (c : Claims) :
    (∀ name, (c.numeric name = .ok none ↔ c.text name = none) ∧
      (c.text name = none ↔ c.Missing name) ∧
      (∀ n, c.numeric name = .ok (some n) →
        ∃ s, c.text name = some s ∧ Numeral (trim s.toList) n) ∧
      (∀ n, c.numeric name = .ok (some n) ↔
        ∃ v, get? name c.payload = some v ∧ Writes v n ∧ FitsInt64 n) ∧
      (∀ e, c.numeric name = .error e ↔ e = .unexpectedClaimType name ∧
        ∃ v, get? name c.payload = some v ∧ v ≠ .null ∧ ∀ n, Writes v n → ¬ FitsInt64 n)) ∧
    (∀ (numeral : Reader.Numeral) number n, numeral.fraction ≠ [] ∨ numeral.exponent ≠ none →
      numeral.value? = some number → ¬ Writes (.number number) n) ∧
    ∀ d token, c.Respelled d → AccessToken.issued token d = AccessToken.issued token c := by
  refine ⟨fun name => ⟨?_, text_eq_none_iff, fun n h => ?_, fun n => numeric_eq_some_iff,
    fun e => numeric_eq_error_iff⟩, fun numeral number n hparted hvalue => ?_, fun d token h => ?_⟩
  · rw [numeric_eq_none_iff, text_eq_none_iff]
  · obtain ⟨v, hv, hn, -⟩ := numeric_eq_some_iff.mp h
    exact ⟨textOf v, text_of_get? hv hn.ne_null, hn.numeral_textOf⟩
  · exact not_writes_of_parted hparted hvalue n
  · exact h.issued_eq token

/-- **An integer in a string**, with a plus, zeros in front and blanks around, in the place of a
number; and a number with an exponent, which is none although it is integral. -/
theorem numbers_agree_with_texts_of_respelled :
    let c : Claims := ⟨[], [("exp", .number (.whole 2000)), ("iat", .number (.whole 1000))]⟩
    let d : Claims := ⟨[], [("exp", .string " +02000\u3000"), ("iat", .number (.whole 1000))]⟩
    c.Respelled d ∧ AccessToken.issued "t" d = AccessToken.issued "t" c ∧
      (∀ number, Reader.Numeral.value? ⟨false, [1], [], some (false, [3])⟩ = some number →
        ¬ Writes (.number number) 1000) := by
  intro c d
  have hnumeral : Numeral (trim " +02000\u3000".toList) 2000 :=
    int?_eq_some_iff.mp (by decide +kernel)
  have hrespelled : c.Respelled d := by
    intro name
    by_cases hname : "exp" = name
    · subst hname
      exact .inr ⟨_, _, 2000, rfl, rfl, .number 2000, .string hnumeral⟩
    · exact .inl (by simp only [c, d, get?, if_neg hname])
  obtain ⟨-, hparted, hissued⟩ := numbers_agree_with_texts c
  exact ⟨hrespelled, hissued d "t" hrespelled,
    fun number hvalue => hparted _ number 1000 (.inr (by decide)) hvalue⟩

end Outbound.Claims
