import Outbound.Domain.Name
import Outbound.Proofs.Text.Parting

/-!
# Names in ASCII

What the ASCII form of a domain name looks like, and which names are their own.

* **Punycode** — an encoded label consists of the ASCII characters of the label, a hyphen and digits
  (`Punycode.forall_mem_encode`);
* **form** — a name in ASCII has no character that was refused (`forall_mem_ascii?`);
* **plain names** — a name in ASCII without upper case, with nothing refused and no label in
  Punycode, is its own ASCII form (`ascii?_of_plain`).
-/

namespace Outbound.Domain

open Outbound.Text

/-! ## Punycode -/

namespace Punycode

theorem threshold_pos (bias rank : Nat) : 1 ≤ threshold bias rank := Nat.le_max_left ..

theorem threshold_le (bias rank : Nat) : threshold bias rank ≤ 26 :=
  Nat.max_le.mpr ⟨by omega, Nat.min_le_left ..⟩

section Digits

variable {p : Char → Prop} (hdigit : ∀ n < 36, p (digit n))

include hdigit

/-- **A number** is written with digits of base 36. -/
theorem forall_mem_number (bias fuel rank n : Nat) : ∀ c ∈ number bias fuel rank n, p c := by
  induction fuel generalizing rank n with
  | zero => exact fun c hc => absurd hc List.not_mem_nil
  | succ fuel ih =>
    have hpos := threshold_pos bias rank
    have hle := threshold_le bias rank
    rw [number]
    split
    case isTrue h =>
      intro c hc
      obtain rfl := List.mem_singleton.mp hc
      exact hdigit n (by omega)
    case isFalse h =>
      refine List.forall_mem_cons.mpr ⟨hdigit _ ?_, ih _ _⟩
      have hmod := Nat.mod_lt (n - threshold bias rank) (y := 36 - threshold bias rank) (by omega)
      omega

theorem forall_mem_meet {w : Writing} (basic code : Nat) (c : Char) (h : ∀ d ∈ w.out, p d) :
    ∀ d ∈ (w.meet basic code c).out, p d := by
  rw [Writing.meet]
  split
  · exact h
  · split
    · exact List.forall_mem_append.mpr ⟨h, forall_mem_number hdigit _ _ _ _⟩
    · exact h

/-- **A pass** over the text writes numbers only. -/
theorem forall_mem_pass (basic code : Nat) (cs : List Char) {w : Writing} (h : ∀ d ∈ w.out, p d) :
    ∀ d ∈ (cs.foldl (Writing.meet basic code) w).out, p d := by
  induction cs generalizing w with
  | nil => exact h
  | cons c cs ih => exact ih (forall_mem_meet hdigit basic code c h)

theorem forall_mem_passes (cs : List Char) (basic fuel code : Nat) {w : Writing}
    (h : ∀ d ∈ w.out, p d) : ∀ d ∈ (passes cs basic fuel code w).out, p d := by
  induction fuel generalizing code w with
  | zero => exact h
  | succ fuel ih =>
    rw [passes]
    split
    · exact h
    · exact ih _ (forall_mem_pass hdigit basic _ cs h)

/-- **An encoded label** consists of the ASCII characters of the label, a hyphen and digits. -/
theorem forall_mem_encode {cs : List Char} (hhyphen : p '-')
    (hcs : ∀ c ∈ cs, c.toNat < 0x80 → p c) :
    ∀ c ∈ encode cs, p c := by
  refine forall_mem_passes hdigit _ _ _ _ (List.forall_mem_append.mpr ⟨?_, ?_⟩)
  · intro c hc
    obtain ⟨hmem, hascii⟩ := List.mem_filter.mp hc
    exact hcs c hmem (of_decide_eq_true hascii)
  · intro c hc
    split at hc
    · exact absurd hc List.not_mem_nil
    · obtain rfl := List.mem_singleton.mp hc
      exact hhyphen

end Digits

end Punycode

/-! ## The ASCII form -/

variable {refused : Char → Bool}

/-- What labels in Punycode are written with: lower-case letters, digits and hyphens. -/
def signs : List Char := '-' :: (List.range 36).map Punycode.digit

/-- **The text of a label** has no character that was refused. -/
theorem forall_mem_labelText {label : List Char} (hsigns : ∀ c ∈ signs, refused c = false)
    (h : isLabel refused label = true) :
    ∀ c ∈ labelText label, c.toNat < 0x80 ∧ refused c = false := by
  have hsign : ∀ c ∈ signs, c.toNat < 0x80 ∧ refused c = false := by
    have hascii : ∀ c ∈ signs, c.toNat < 0x80 := by decide
    exact fun c hc => ⟨hascii c hc, hsigns c hc⟩
  have hlabel : ∀ c ∈ label, c.toNat < 0x80 → c.toNat < 0x80 ∧ refused c = false := by
    intro c hc hascii
    rw [isLabel, Bool.and_eq_true, List.all_eq_true] at h
    have hkept := h.1 c hc
    rw [if_pos hascii] at hkept
    exact ⟨hascii, (Bool.not_eq_true' _).mp hkept⟩
  rw [labelText]
  split
  case isTrue hall =>
    intro c hc
    exact hlabel c hc (of_decide_eq_true (List.all_eq_true.mp hall c hc))
  case isFalse =>
    refine List.forall_mem_append.mpr ⟨fun c hc => hsign c ?_, ?_⟩
    · have hsub : ∀ c ∈ punycodeSign, c ∈ signs := by decide
      exact hsub c hc
    · refine Punycode.forall_mem_encode (fun n hn => hsign _ ?_) (hsign _ List.mem_cons_self) hlabel
      exact List.mem_cons_of_mem _ (List.mem_map_of_mem (List.mem_range.mpr hn))

/-- **The ASCII form** of a name has no character that was refused. -/
theorem forall_mem_ascii? {cs name : List Char} (hdot : refused '.' = false)
    (hsigns : ∀ c ∈ signs, refused c = false) (h : ascii? refused cs = some name) :
    ∀ c ∈ name, c.toNat < 0x80 ∧ refused c = false := by
  rw [ascii?] at h
  obtain ⟨labels, -, h⟩ := Option.bind_eq_some_iff.mp h
  split at h
  case isTrue hlabels =>
    obtain rfl := Option.some.inj h
    rw [Bool.and_eq_true, List.all_eq_true] at hlabels
    refine forall_mem_intercalate ⟨by decide, hdot⟩ ?_
    intro part hpart
    obtain ⟨label, hlabel, rfl⟩ := List.mem_map.mp hpart
    exact forall_mem_labelText hsigns (hlabels.1 label hlabel)
  case isFalse => cases h

/-! ## Plain names -/

/-- **Plain names** are in ASCII, without upper case and without characters that are refused, and no
label of theirs is in Punycode. -/
structure Plain (refused : Char → Bool) (cs : List Char) : Prop where
  chars : ∀ c ∈ cs, c.toNat < 0x80 ∧ refused c = false
  case : ∀ c ∈ cs, c.isUpper = false
  labels : ∀ label ∈ cs.splitOn '.', ¬ punycodeSign <+: label

theorem fold_of_plain {c : Char} (hascii : c.toNat < 0x80) (hcase : c.isUpper = false) :
    fold c = [c] := by
  have hlower : c.toLower = c := dif_neg (of_decide_eq_false hcase)
  rw [fold, if_pos hascii, hlower]

theorem flatMap_fold_of_plain {cs : List Char} (h : Plain refused cs) : cs.flatMap fold = cs := by
  have hsingle : ∀ c ∈ cs, fold c = [c] := fun c hc => fold_of_plain (h.chars c hc).1 (h.case c hc)
  rw [List.flatMap_congr hsingle, List.flatMap_singleton']

theorem normal_of_plain {cs : List Char} (h : Plain refused cs) : normal cs = cs := by
  have hall : cs.all (·.toNat < 0x300) = true := by
    refine List.all_eq_true.mpr fun c hc => decide_eq_true ?_
    have hascii := (h.chars c hc).1
    omega
  rw [normal, if_pos hall]

theorem meaning?_of_plain {label : List Char} (h : ¬ punycodeSign <+: label) :
    meaning? label = some label := by
  have hsign : (!punycodeSign.isPrefixOf label) = true := by
    rwa [Bool.not_eq_true', ← Bool.not_eq_true, List.isPrefixOf_iff_prefix]
  rw [meaning?, if_pos hsign]
  rfl

theorem isLabel_of_plain {label : List Char} (h : ∀ c ∈ label, c.toNat < 0x80 ∧ refused c = false) :
    isLabel refused label = true ∧ inAscii label = true := by
  have hascii : inAscii label = true :=
    List.all_eq_true.mpr fun c hc => decide_eq_true (h c hc).1
  refine ⟨?_, hascii⟩
  rw [isLabel, hascii, Bool.true_or, Bool.and_true]
  refine List.all_eq_true.mpr fun c hc => ?_
  rw [if_pos (h c hc).1, (h c hc).2, Bool.not_false]

/-- **A plain name** is its own ASCII form. -/
theorem ascii?_of_plain {cs : List Char} (h : Plain refused cs) : ascii? refused cs = some cs := by
  have hmeanings : (cs.splitOn '.').mapM meaning? = some (cs.splitOn '.') :=
    mapM_eq_some_iff.mpr <| List.forall₂_same.mpr fun label hlabel =>
      meaning?_of_plain (h.labels label hlabel)
  have hlabels : ∀ label ∈ cs.splitOn '.', isLabel refused label = true ∧ inAscii label = true :=
    fun label hlabel => isLabel_of_plain fun c hc => h.chars c (subset_of_mem_splitOn hlabel hc)
  have hvalid : (cs.splitOn '.').all (isLabel refused) = true :=
    List.all_eq_true.mpr fun label hlabel => (hlabels label hlabel).1
  have hascii : (cs.splitOn '.').all inAscii = true :=
    List.all_eq_true.mpr fun label hlabel => (hlabels label hlabel).2
  have htexts : (cs.splitOn '.').map labelText = cs.splitOn '.' := by
    refine (List.map_congr_left fun label hlabel => ?_).trans (List.map_id _)
    rw [labelText, if_pos (hlabels label hlabel).2, id]
  rw [ascii?, flatMap_fold_of_plain h, normal_of_plain h, hmeanings]
  change (if (cs.splitOn '.').all (isLabel refused) &&
      ((cs.splitOn '.').all inAscii || directionsAgree (cs.splitOn '.')) then
    some (['.'].intercalate ((cs.splitOn '.').map labelText)) else none) = some cs
  rw [hvalid, hascii, htexts, List.intercalate_splitOn]
  rfl

end Outbound.Domain
