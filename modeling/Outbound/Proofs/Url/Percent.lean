import Outbound.Proofs.Text.Parting
import Outbound.Proofs.Text.Utf8
import Outbound.Url.Percent

/-!
# Encoded text

What percent-encoding leaves behind is clean: encoding it again changes nothing.

* **clean** — `Clean` text is in ASCII and has nothing of a set in it. What is encoded is clean
  (`clean_percentEncode`), and clean text stays as it is (`percentEncode_of_clean`);
* **signs** — whatever holds of the characters that stay and of the `escapes` holds of the whole
  (`forall_mem_percentEncode`);
* **sets** — no set has an escape in it, and each has all controls in it (`Encoding`);
* **decoding** — text without `%` decodes to its bytes (`percentDecode_of_not_mem`).
-/

namespace Outbound.Url

open Outbound.Text

/-! ## Clean text -/

/-- **Clean text** has nothing that is to be encoded. -/
def Clean (set : Char → Bool) (cs : List Char) : Prop := ∀ c ∈ cs, c.toNat < 0x80 ∧ set c = false

instance (set : Char → Bool) (cs : List Char) : Decidable (Clean set cs) :=
  inferInstanceAs (Decidable (∀ _ ∈ _, _))

section Clean

variable {set set' : Char → Bool} {cs ds : List Char}

@[simp] theorem clean_nil : Clean set [] := fun _ h => absurd h List.not_mem_nil

@[simp] theorem clean_cons {c : Char} :
    Clean set (c :: cs) ↔ (c.toNat < 0x80 ∧ set c = false) ∧ Clean set cs :=
  List.forall_mem_cons

@[simp] theorem clean_append : Clean set (cs ++ ds) ↔ Clean set cs ∧ Clean set ds :=
  List.forall_mem_append

theorem Clean.not_mem (h : Clean set cs) {c : Char} (hc : set c = true) : c ∉ cs := by
  intro hmem
  rw [(h c hmem).2] at hc
  cases hc

theorem Clean.of_subset (h : Clean set cs) (hsub : ds ⊆ cs) : Clean set ds :=
  fun c hc => h c (hsub hc)

theorem Clean.mono (h : Clean set cs) (hle : ∀ c, set' c = true → set c = true) :
    Clean set' cs := by
  intro c hc
  obtain ⟨hascii, hset⟩ := h c hc
  refine ⟨hascii, ?_⟩
  cases hset' : set' c with
  | false => rfl
  | true => rw [hle c hset'] at hset; cases hset

/-- **Clean text stays.** -/
theorem percentEncode_of_clean (h : Clean set cs) : percentEncode set cs = cs := by
  induction cs with
  | nil => rfl
  | cons c cs ih =>
    obtain ⟨⟨hascii, hset⟩, hcs⟩ := clean_cons.mp h
    have hstays : (decide (0x80 ≤ c.toNat) || set c) = false := by simp [hset, hascii]
    have htail : percentEncode set cs = cs := ih hcs
    rw [percentEncode] at htail
    rw [percentEncode, List.flatMap_cons, hstays, htail]
    rfl

end Clean

/-! ## What encoding writes -/

/-- What a byte is written with. -/
def escapes : List Char :=
  ['%', '0', '1', '2', '3', '4', '5', '6', '7', '8', '9', 'A', 'B', 'C', 'D', 'E', 'F']

theorem hexUpper_mem_escapes {n : Nat} (hn : n < 16) : hexUpper n ∈ escapes := by
  revert n
  decide

theorem mem_escapes_of_mem_percentByte {b : UInt8} {c : Char} (h : c ∈ percentByte b) :
    c ∈ escapes := by
  have hb := b.toNat_lt
  simp only [percentByte, List.mem_cons, List.not_mem_nil, or_false] at h
  rcases h with rfl | rfl | rfl
  · decide
  · exact hexUpper_mem_escapes (by omega)
  · exact hexUpper_mem_escapes (by omega)

section Encoded

variable {set : Char → Bool} {cs : List Char}

/-- **Whatever holds** of the characters that stay, and of the escapes, holds of encoded text. -/
theorem forall_mem_percentEncode {p : Char → Prop} (hescapes : ∀ c ∈ escapes, p c)
    (hstays : ∀ c ∈ cs, c.toNat < 0x80 → set c = false → p c) :
    ∀ c ∈ percentEncode set cs, p c := by
  intro c hc
  obtain ⟨d, hd, hmem⟩ := List.mem_flatMap.mp hc
  split at hmem
  case isTrue =>
    obtain ⟨b, -, hb⟩ := List.mem_flatMap.mp hmem
    exact hescapes c (mem_escapes_of_mem_percentByte hb)
  case isFalse h =>
    obtain rfl := List.mem_singleton.mp hmem
    simp only [Bool.or_eq_true, decide_eq_true_eq, not_or, Bool.not_eq_true, not_le] at h
    exact hstays c hd h.1 h.2

theorem percentEncode_append (cs ds : List Char) :
    percentEncode set (cs ++ ds) = percentEncode set cs ++ percentEncode set ds :=
  List.flatMap_append

/-- **One character** is written with itself or with escapes, and never with nothing. -/
theorem percentEncode_singleton (set : Char → Bool) (c : Char) :
    percentEncode set [c] ≠ [] ∧ ∀ d ∈ percentEncode set [c], d ∈ escapes ∨ d = c := by
  have hall : ∀ d ∈ percentEncode set [c], d ∈ escapes ∨ d = c :=
    forall_mem_percentEncode (fun d hd => .inl hd) fun d hd _ _ => .inr (List.mem_singleton.mp hd)
  refine ⟨?_, hall⟩
  rw [percentEncode, List.flatMap_singleton]
  split
  · intro hnil
    have hlength : (String.utf8EncodeChar c).length = c.utf8Size := String.length_utf8EncodeChar c
    have hpos := c.utf8Size_pos
    rcases hbytes : String.utf8EncodeChar c with _ | ⟨b, bs⟩
    · rw [hbytes] at hlength
      exact absurd hlength (Nat.ne_of_lt hpos)
    · rw [hbytes] at hnil
      cases hnil
  · exact List.cons_ne_nil _ _

/-- **The first character** of encoded text is an escape, or was there before. -/
theorem of_mem_head?_percentEncode {c : Char} (h : c ∈ (percentEncode set cs).head?) :
    c ∈ escapes ∨ c ∈ cs.head? := by
  cases cs with
  | nil => cases h
  | cons d cs =>
    obtain ⟨hne, hall⟩ := percentEncode_singleton set d
    obtain ⟨e, es, hes⟩ := List.exists_cons_of_ne_nil hne
    rw [← List.singleton_append, percentEncode_append, hes] at h
    obtain rfl := Option.some.inj h
    exact (hall e (by rw [hes]; exact List.mem_cons_self)).imp_right fun he => congrArg some he.symm

/-- So is the last one. -/
theorem of_mem_getLast?_percentEncode {c : Char} (h : c ∈ (percentEncode set cs).getLast?) :
    c ∈ escapes ∨ c ∈ cs.getLast? := by
  rcases List.eq_nil_or_concat' cs with rfl | ⟨init, last, rfl⟩
  · cases h
  · obtain ⟨hne, hall⟩ := percentEncode_singleton set last
    rw [percentEncode_append, List.getLast?_append_of_ne_nil _ hne] at h
    rw [List.getLast?_concat]
    exact (hall c (List.mem_of_mem_getLast? h)).imp_right fun hc => congrArg some hc.symm

end Encoded

/-! ## Sets -/

/-- **A set that parts of a URL are encoded with**: all controls are in it, no escape is. -/
structure Encoding (set : Char → Bool) : Prop where
  controls : ∀ c, inControls c = true → set c = true
  escapes : Clean set escapes

theorem encoding_inControls : Encoding inControls := ⟨fun _ h => h, by decide⟩

theorem encoding_inFragment : Encoding inFragment :=
  ⟨fun c h => by simp [inFragment, h], by decide⟩

theorem encoding_inQuery (special : Bool) : Encoding (inQuery special) := by
  refine ⟨fun c h => by simp [inQuery, h], ?_⟩
  revert special
  decide

theorem encoding_inPath : Encoding inPath :=
  ⟨fun c h => by simp [inPath, encoding_inFragment.controls c h], by decide⟩

theorem encoding_inUserinfo : Encoding inUserinfo :=
  ⟨fun c h => by simp [inUserinfo, encoding_inPath.controls c h], by decide⟩

section Encoding

variable {set : Char → Bool} {cs : List Char} (hset : Encoding set)

include hset

/-- **What is encoded is clean.** -/
theorem clean_percentEncode : Clean set (percentEncode set cs) :=
  forall_mem_percentEncode hset.escapes fun _ _ hascii hc => ⟨hascii, hc⟩

theorem Clean.controls (h : Clean set cs) : Clean inControls cs := h.mono hset.controls

end Encoding

/-! ## Decoding -/

/-- **Text without `%`** decodes to its bytes. -/
theorem percentDecode_of_not_mem {cs : List Char} (h : '%' ∉ cs) :
    percentDecode cs = Utf8.encode cs := by
  fun_induction percentDecode cs with
  | case1 => rfl
  | case2 => simp at h
  | case3 => simp at h
  | case4 c cs hc ih =>
    rw [ih (fun hmem => h (List.mem_cons_of_mem _ hmem)), Utf8.encode_cons]

end Outbound.Url
