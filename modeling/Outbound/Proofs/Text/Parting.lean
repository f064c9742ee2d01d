import Mathlib.Data.List.DropRight
import Mathlib.Data.List.Forall2
import Outbound.Text.Blank

/-!
# Trimming and splitting

What trimming and splitting make of a text that is put together from parts.

* **ends** — `dropEndWhile` takes away what stands behind a character that stays
  (`dropEndWhile_append_cons`), and nothing of a text that does not end in it
  (`dropEndWhile_append`);
* **trimming** — of parts around a character that is not blank, each is trimmed on its outer side
  only (`trim_append_cons`); what is taken away are blanks (`exists_eq_append_trim_append`), and all
  of those around a text that has none (`trim_append_append`);
* **splitting** — a text falls into one segment more than it has separators (`length_splitOn`);
  three segments are told by `splitOn_eq_three_iff`;
* **joining** — the characters of a joined text are those of its parts and the separator
  (`forall_mem_intercalate`, `subset_of_mem_splitOn`);
* **reading** — all parts are read if each of them is (`mapM_eq_some_iff`).
-/

namespace Outbound.Text

/-- What all characters of a text have is decided by looking at these, and not at all there are. -/
instance (priority := high) decidableForallMem (p : Char → Prop) [DecidablePred p]
    (cs : List Char) : Decidable (∀ c ∈ cs, p c) :=
  List.decidableBAll p cs

/-! ## Trimming -/

section Trimming

variable {p : Char → Bool}

theorem dropEndWhile_eq_rdropWhile (cs : List Char) : dropEndWhile p cs = cs.rdropWhile p := rfl

theorem not_mem_dropEndWhile {c : Char} {cs : List Char} (h : c ∉ cs) : c ∉ dropEndWhile p cs :=
  fun hmem => h ((List.rdropWhile_prefix p cs).subset hmem)

/-- What stands in front of a character that stays is all that the front loses. -/
theorem dropWhile_append_cons {c : Char} (hc : ¬ p c) (front back : List Char) :
    (front ++ c :: back).dropWhile p = front.dropWhile p ++ c :: back := by
  induction front with
  | nil => simp [hc]
  | cons d front ih =>
    by_cases hd : p d
    · simp [hd, ih]
    · simp [hd]

/-- What stands behind a character that stays is all that the end loses. -/
theorem dropEndWhile_append_cons {c : Char} (hc : ¬ p c) (front back : List Char) :
    dropEndWhile p (front ++ c :: back) = front ++ c :: dropEndWhile p back := by
  have hreverse : (front ++ c :: back).reverse = back.reverse ++ c :: front.reverse := by simp
  rw [dropEndWhile, hreverse, dropWhile_append_cons hc, dropEndWhile]
  simp

section Stops

variable {front back : List Char} (hfront : ∀ c ∈ front, p c = true)
  (hback : ∀ c ∈ back.head?, p c = false)

include hfront hback

/-- **What is taken** stops at the first character that is not. -/
theorem takeWhile_append_of_stop : (front ++ back).takeWhile p = front := by
  rw [List.takeWhile_append_of_pos hfront]
  cases back with
  | nil => simp
  | cons c back => rw [List.takeWhile_cons_of_neg (by simp [hback c rfl]), List.append_nil]

/-- **What is left** begins there. -/
theorem dropWhile_append_of_stop : (front ++ back).dropWhile p = back := by
  rw [List.dropWhile_append_of_pos hfront]
  cases back with
  | nil => rfl
  | cons c back => rw [List.dropWhile_cons_of_neg (by simp [hback c rfl])]

end Stops

/-- The end loses a run of a character, and nothing of what stands in front of it. -/
theorem dropEndWhile_append_replicate {c : Char} {front : List Char} (hc : c ∉ front) (k : Nat) :
    dropEndWhile (· == c) (front ++ List.replicate k c) = front := by
  rw [dropEndWhile_eq_rdropWhile]
  induction k with
  | zero =>
    rw [List.replicate_zero, List.append_nil, List.rdropWhile_eq_self_iff]
    intro hne hlast
    have hmem := List.getLast_mem hne
    rw [eq_of_beq hlast] at hmem
    exact hc hmem
  | succ k ih =>
    rw [List.replicate_succ', ← List.append_assoc,
      List.rdropWhile_concat_pos (· == c) _ _ (beq_self_eq_true c)]
    exact ih

/-- **A run of one character** is all that is taken from the end of a text. -/
theorem exists_eq_dropEndWhile_append (c : Char) (cs : List Char) :
    ∃ k, cs = dropEndWhile (· == c) cs ++ List.replicate k c := by
  simp only [dropEndWhile_eq_rdropWhile]
  induction cs using List.reverseRecOn with
  | nil => exact ⟨0, rfl⟩
  | append_singleton cs d ih =>
    obtain ⟨k, hk⟩ := ih
    by_cases hd : (d == c) = true
    · obtain rfl := eq_of_beq hd
      refine ⟨k + 1, ?_⟩
      rw [List.rdropWhile_concat_pos (· == d) _ _ hd, List.replicate_succ', ← List.append_assoc]
      exact congrArg (· ++ [d]) hk
    · refine ⟨0, ?_⟩
      rw [List.rdropWhile_concat_neg (· == c) _ _ hd, List.replicate_zero, List.append_nil]

end Trimming

/-- **Trimming parts** on either side of a character that is not blank. -/
theorem trim_append_cons {c : Char} (hc : ¬ isBlank c) (front back : List Char) :
    trim (front ++ c :: back) = front.dropWhile isBlank ++ c :: dropEndWhile isBlank back := by
  rw [trim, dropWhile_append_cons hc, dropEndWhile_append_cons hc]

/-- **Blanks around a text** that has none is what trimming takes away. -/
theorem trim_append_append {front text back : List Char} (hfront : ∀ c ∈ front, isBlank c)
    (htext : ∀ c ∈ text, ¬ isBlank c) (hback : ∀ c ∈ back, isBlank c) :
    trim (front ++ text ++ back) = text := by
  have hends : dropEndWhile isBlank (text ++ back) = text := by
    rw [dropEndWhile, List.reverse_append,
      List.dropWhile_append_of_pos (fun c hc => hback c (List.mem_reverse.mp hc))]
    exact (List.rdropWhile_eq_self_iff).mpr fun hne => htext _ (List.getLast_mem hne)
  rw [trim, List.append_assoc, List.dropWhile_append_of_pos hfront]
  cases text with
  | nil =>
    have hnil : back.dropWhile isBlank = [] := List.dropWhile_eq_nil_iff.mpr hback
    rw [List.nil_append, hnil]
    rfl
  | cons c text =>
    have hc : ¬ isBlank c := htext c List.mem_cons_self
    rw [List.cons_append, List.dropWhile_cons_of_neg hc]
    exact hends

/-- **What trimming takes away** are blanks on either side. -/
theorem exists_eq_append_trim_append (cs : List Char) :
    ∃ front back, cs = front ++ trim cs ++ back ∧
      (∀ c ∈ front, isBlank c) ∧ (∀ c ∈ back, isBlank c) := by
  refine ⟨cs.takeWhile isBlank, (cs.dropWhile isBlank).rtakeWhile isBlank, ?_, ?_, ?_⟩
  · rw [List.append_assoc, trim, dropEndWhile_eq_rdropWhile, List.rdropWhile_append_rtakeWhile,
      List.takeWhile_append_dropWhile]
  · exact fun c => List.mem_takeWhile_imp
  · exact fun c => List.mem_rtakeWhile_imp

/-! ## Splitting -/

section Splitting

variable {c : Char}

/-- **Segments** are one more than separators. -/
theorem length_splitOn (cs : List Char) : (cs.splitOn c).length = cs.count c + 1 := by
  induction cs with
  | nil => rfl
  | cons d cs ih =>
    rw [List.splitOn_cons_eq_if_modifyHead]
    by_cases hd : (d == c) = true
    · simp [List.count_cons, hd, ih]
    · simp [List.count_cons, hd, ih]

/-- No segment has a separator in it. -/
theorem not_mem_of_mem_splitOn {cs segment : List Char} (h : segment ∈ cs.splitOn c) :
    c ∉ segment := by
  induction cs generalizing segment with
  | nil =>
    obtain rfl := List.mem_singleton.mp h
    exact List.not_mem_nil
  | cons d cs ih =>
    rw [List.splitOn_cons_eq_if_modifyHead] at h
    by_cases hd : (d == c) = true
    · rw [if_pos hd] at h
      rcases List.mem_cons.mp h with rfl | h
      · exact List.not_mem_nil
      · exact ih h
    · rw [if_neg hd] at h
      rcases hs : cs.splitOn c with _ | ⟨first, rest⟩
      · exact absurd hs (List.splitOn_ne_nil c cs)
      · rw [hs, List.modifyHead_cons] at h
        rcases List.mem_cons.mp h with rfl | h
        · have hne : c ≠ d := by
            rintro rfl
            exact hd (beq_self_eq_true c)
          have hfirst : c ∉ first := ih (by rw [hs]; exact List.mem_cons_self)
          exact List.not_mem_cons_of_ne_of_not_mem hne hfirst
        · exact ih (by rw [hs]; exact List.mem_cons_of_mem _ h)

/-- **Three segments.** -/
theorem splitOn_eq_three_iff {cs x y z : List Char} :
    cs.splitOn c = [x, y, z] ↔
      cs = x ++ c :: (y ++ c :: z) ∧ c ∉ x ∧ c ∉ y ∧ c ∉ z := by
  constructor
  · intro h
    have hcs : [c].intercalate (cs.splitOn c) = cs := List.intercalate_splitOn c
    have hparts : ∀ segment ∈ [x, y, z], c ∉ segment := by
      intro segment hmem
      rw [← h] at hmem
      exact not_mem_of_mem_splitOn hmem
    rw [h] at hcs
    refine ⟨?_, hparts x (by simp), hparts y (by simp), hparts z (by simp)⟩
    simpa [List.intercalate] using hcs.symm
  · rintro ⟨rfl, hx, hy, hz⟩
    rw [List.splitOn_append_cons_self_of_not_mem hx, List.splitOn_append_cons_self_of_not_mem hy,
      List.splitOn_eq_singleton hz]

/-! ## Joining -/

/-- **Whatever holds** of the parts and of the separator holds of the joined text. -/
theorem forall_mem_intercalate {P : Char → Prop} {parts : List (List Char)} (hc : P c)
    (hparts : ∀ part ∈ parts, ∀ d ∈ part, P d) : ∀ d ∈ [c].intercalate parts, P d := by
  induction parts with
  | nil => exact fun d hd => absurd hd List.not_mem_nil
  | cons part parts ih =>
    obtain ⟨hpart, hparts⟩ := List.forall_mem_cons.mp hparts
    cases parts with
    | nil => simpa using hpart
    | cons next parts =>
      rw [List.intercalate_cons_cons]
      refine List.forall_mem_append.mpr ⟨List.forall_mem_append.mpr ⟨hpart, ?_⟩, ih hparts⟩
      exact List.forall_mem_singleton.mpr hc

theorem subset_intercalate {parts : List (List Char)} {part : List Char} (h : part ∈ parts) :
    part ⊆ [c].intercalate parts := by
  induction parts with
  | nil => exact absurd h List.not_mem_nil
  | cons first parts ih =>
    cases parts with
    | nil =>
      obtain rfl := List.mem_singleton.mp h
      simp
    | cons next parts =>
      rw [List.intercalate_cons_cons]
      rcases List.mem_cons.mp h with rfl | h
      · exact fun d hd => List.mem_append_left _ (List.mem_append_left _ hd)
      · exact fun d hd => List.mem_append_right _ (ih h hd)

theorem intercalate_append {xs ys : List (List Char)} (hx : xs ≠ []) (hy : ys ≠ []) :
    [c].intercalate (xs ++ ys) = [c].intercalate xs ++ c :: [c].intercalate ys := by
  induction xs with
  | nil => exact absurd rfl hx
  | cons x xs ih =>
    cases xs with
    | nil => simp [List.intercalate_cons_of_ne_nil hy]
    | cons x' xs =>
      rw [List.cons_append, List.cons_append, List.intercalate_cons_cons, ← List.cons_append,
        ih (List.cons_ne_nil _ _), List.intercalate_cons_cons]
      simp only [List.append_assoc]

/-- A segment has no characters of its own. -/
theorem subset_of_mem_splitOn {cs segment : List Char} (h : segment ∈ cs.splitOn c) :
    segment ⊆ cs := by
  have hsub := subset_intercalate (c := c) h
  rwa [List.intercalate_splitOn c] at hsub

end Splitting

/-! ## Reading part by part -/

/-- **All parts are read** if each of them is. -/
theorem mapM_eq_some_iff {α β : Type} {f : α → Option β} {parts : List α} {results : List β} :
    parts.mapM f = some results ↔
      List.Forall₂ (fun part result => f part = some result) parts results := by
  induction parts generalizing results with
  | nil =>
    rw [List.mapM_nil, List.forall₂_nil_left_iff]
    exact ⟨fun h => (Option.some.inj h).symm, fun h => congrArg some h.symm⟩
  | cons part parts ih =>
    rw [List.mapM_cons]
    constructor
    · intro h
      obtain ⟨result, hresult, h⟩ := Option.bind_eq_some_iff.mp h
      obtain ⟨rest, hrest, h⟩ := Option.bind_eq_some_iff.mp h
      obtain rfl := Option.some.inj h
      exact .cons hresult (ih.mp hrest)
    · rintro (_ | ⟨hresult, hrest⟩)
      rw [hresult, ih.mpr hrest]
      rfl

/-- Whatever holds of each thing that may be read holds of all that are. -/
theorem forall_mem_of_mapM {α β : Type} {f : α → Option β} {p : β → Prop} {parts : List α}
    {results : List β} (hf : ∀ part result, f part = some result → p result)
    (h : parts.mapM f = some results) : ∀ result ∈ results, p result := by
  have hparts := mapM_eq_some_iff.mp h
  clear h
  induction hparts with
  | nil => exact fun result h => absurd h List.not_mem_nil
  | cons hresult _ ih => exact List.forall_mem_cons.mpr ⟨hf _ _ hresult, ih⟩

end Outbound.Text
