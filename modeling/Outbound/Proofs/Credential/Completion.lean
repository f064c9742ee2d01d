import Outbound.Credential.Config
import Outbound.Proofs.Url.Paths

/-!
# Completing a text

The token endpoint of a URL is made from the text of the URL: the slashes at its end are dropped,
and the token path is appended unless it is there. This module says what that makes of a text that
is put together from parts.

* **twice** — a completed text ends in the token path (`suffix_completed`), and is left alone
  (`completed_of_suffix`);
* **parts** — in front of a character that is not in the token path nothing changes
  (`completed_append_cons`);
* **paths** — the path of a completed text is a path again (`exists_segments_completed`);
* **authorities** — with an authority in front it is the path that is completed, unless path and
  authority together make up the token path, or there is neither (`completed_authority`).
-/

namespace Outbound.IamConfig

open Outbound.Text Outbound.Url

/-- A text without the slashes at its end. -/
def trimmed (cs : List Char) : List Char := dropEndWhile (· == '/') cs

/-- A text with the token path at its end. -/
def complete (base : List Char) : List Char :=
  if tokenPath.toList.isSuffixOf base then base else base ++ tokenPath.toList

/-- **Completing a text**: without the slashes at its end, and with the token path. -/
def completed (cs : List Char) : List Char := complete (trimmed cs)

theorem toList_endpointText (url : Url) :
    (endpointText url).toList = completed url.text.toList := by
  rw [endpointText, completed, trimmed, complete]
  split <;> exact String.toList_ofList

/-- The characters of the token path. -/
theorem toList_tokenPath : tokenPath.toList = "/identity".toList ++ '/' :: "token".toList := by
  decide

theorem slash_mem_tokenPath : '/' ∈ tokenPath.toList := by
  decide

/-! ## Slashes at the end -/

/-- Nothing is trimmed from a text that ends in something else. -/
theorem trimmed_append_cons {c : Char} (hc : c ≠ '/') (front back : List Char) :
    trimmed (front ++ c :: back) = front ++ c :: trimmed back :=
  dropEndWhile_append_cons (p := (· == '/')) (by simpa using hc) front back

theorem trimmed_concat {c : Char} (hc : c ≠ '/') (front : List Char) :
    trimmed (front ++ [c]) = front ++ [c] :=
  trimmed_append_cons hc front []

theorem trimmed_append_replicate (front : List Char) (k : Nat) :
    trimmed (front ++ List.replicate k '/') = trimmed front := by
  induction k with
  | zero => rw [List.replicate_zero, List.append_nil]
  | succ k ih =>
    rw [List.replicate_succ', ← List.append_assoc, trimmed, dropEndWhile_eq_rdropWhile,
      List.rdropWhile_concat_pos _ _ _ (by rfl), ← dropEndWhile_eq_rdropWhile, ← trimmed, ih]

/-! ## Twice -/

section Complete

variable {base cs front back : List Char}

theorem complete_of_suffix (h : tokenPath.toList <:+ base) : complete base = base := by
  rw [complete, if_pos (List.isSuffixOf_iff_suffix.mpr h)]

theorem complete_of_not_suffix (h : ¬ tokenPath.toList <:+ base) :
    complete base = base ++ tokenPath.toList := by
  rw [complete, if_neg (mt List.isSuffixOf_iff_suffix.mp h)]

theorem suffix_complete : tokenPath.toList <:+ complete base := by
  by_cases h : tokenPath.toList <:+ base
  · rwa [complete_of_suffix h]
  · rw [complete_of_not_suffix h]
    exact List.suffix_append _ _

/-- **A completed text** ends in the token path. -/
theorem suffix_completed : tokenPath.toList <:+ completed cs := suffix_complete

/-- **A text that ends in the token path** is left alone. -/
theorem completed_of_suffix (h : tokenPath.toList <:+ cs) : completed cs = cs := by
  have htrimmed : trimmed cs = cs := by
    obtain ⟨front, rfl⟩ := h
    have hlast : tokenPath.toList = "/identity/toke".toList ++ ['n'] := by decide
    rw [hlast, ← List.append_assoc]
    exact trimmed_concat (by decide) _
  rw [completed, htrimmed, complete_of_suffix h]

/-- **Whatever holds** of a text and of the token path holds of the completed text. -/
theorem forall_mem_completed {p : Char → Prop} (hpath : ∀ c ∈ tokenPath.toList, p c)
    (h : ∀ c ∈ cs, p c) :
    ∀ c ∈ completed cs, p c := by
  have htrimmed : ∀ c ∈ trimmed cs, p c := fun c hc => h c ((List.rdropWhile_prefix _ cs).subset hc)
  rw [completed, complete]
  split
  · exact htrimmed
  · exact List.forall_mem_append.mpr ⟨htrimmed, hpath⟩

theorem getLast?_completed : (completed cs).getLast? = some 'n' := by
  obtain ⟨front, hfront⟩ : tokenPath.toList <:+ completed cs := suffix_completed
  have hlast : tokenPath.toList.getLast? = some 'n' := by decide
  rw [← hfront, List.getLast?_append_of_ne_nil _ (List.ne_nil_of_mem slash_mem_tokenPath), hlast]

/-- A completed text begins as the text does, unless that begins with a slash. -/
theorem head?_completed {c : Char} (hc : c ≠ '/') : (completed (c :: cs)).head? = some c := by
  have htrimmed := trimmed_append_cons hc [] cs
  rw [List.nil_append, List.nil_append] at htrimmed
  rw [completed, htrimmed, complete]
  split <;> rfl

/-! ## Parts -/

/-- In front of what decides whether there is a token path nothing changes. -/
theorem complete_append (h : tokenPath.toList <:+ front ++ back ↔ tokenPath.toList <:+ back) :
    complete (front ++ back) = front ++ complete back := by
  by_cases hback : tokenPath.toList <:+ back
  · rw [complete_of_suffix hback, complete_of_suffix (h.mpr hback)]
  · rw [complete_of_not_suffix hback, complete_of_not_suffix (mt h.mp hback), List.append_assoc]

/-- **What a text ends in** is behind a character that is not in it. -/
theorem suffix_append_cons_iff {c : Char} {xs : List Char} (hc : c ∉ xs) :
    xs <:+ front ++ c :: back ↔ xs <:+ back := by
  constructor
  · intro h
    rcases List.suffix_or_suffix_of_suffix h (List.suffix_append front (c :: back)) with h | h
    · rcases List.suffix_cons_iff.mp h with rfl | h
      · exact absurd List.mem_cons_self hc
      · exact h
    · exact absurd (h.subset List.mem_cons_self) hc
  · exact fun h => (h.trans (List.suffix_cons c back)).trans (List.suffix_append front _)

/-- **What a text ends in** is compared from the last character of a kind on. -/
theorem append_cons_suffix_iff {c : Char} {xs ys : List Char} (hys : c ∉ ys) (hback : c ∉ back) :
    xs ++ c :: ys <:+ front ++ c :: back ↔ ys = back ∧ xs <:+ front := by
  constructor
  · rintro ⟨pre, h⟩
    rw [← List.append_assoc] at h
    rcases List.append_eq_append_iff.mp h with ⟨zs, hfront, htail⟩ | ⟨zs, hfront, htail⟩
    · cases zs with
      | nil =>
        rw [hfront, List.append_nil]
        exact ⟨(List.cons.inj htail).2, List.suffix_append pre xs⟩
      | cons z zs =>
        refine absurd ?_ hys
        rw [(List.cons.inj htail).2]
        exact List.mem_append_right _ List.mem_cons_self
    · cases zs with
      | nil =>
        rw [List.append_nil] at hfront
        exact ⟨(List.cons.inj htail).2.symm, hfront ▸ List.suffix_append pre xs⟩
      | cons z zs =>
        refine absurd ?_ hback
        rw [(List.cons.inj htail).2]
        exact List.mem_append_right _ List.mem_cons_self
  · rintro ⟨rfl, pre, rfl⟩
    exact ⟨pre, by simp⟩

/-- **In front of a character** that is not in the token path nothing changes. -/
theorem completed_append_cons {c : Char} (hc : c ∉ tokenPath.toList) (front back : List Char) :
    completed (front ++ c :: back) = front ++ c :: completed back := by
  have hslash : c ≠ '/' := fun h => hc (h ▸ slash_mem_tokenPath)
  have hiff : tokenPath.toList <:+ (front ++ [c]) ++ trimmed back ↔
      tokenPath.toList <:+ trimmed back := by
    rw [List.append_assoc]
    exact suffix_append_cons_iff hc
  have hcomplete := complete_append hiff
  rw [List.append_assoc, List.append_assoc] at hcomplete
  rw [completed, trimmed_append_cons hslash, completed]
  exact hcomplete

end Complete

/-! ## Paths -/

section Paths

variable {special : Bool} {segs : List String}

/-- The text of the path of some segments. -/
abbrev pathText (segs : List String) : List Char := (Path.segments segs).text.toList

theorem pathText_eq (segs : List String) :
    pathText segs = segs.flatMap fun s => '/' :: s.toList := by
  rw [pathText, Path.text, String.toList_join, List.flatMap_map]
  simp

theorem pathText_append (segs segs' : List String) :
    pathText (segs ++ segs') = pathText segs ++ pathText segs' := by
  simp only [pathText_eq, List.flatMap_append]

theorem pathText_singleton (s : String) : pathText [s] = '/' :: s.toList := by
  simp [pathText_eq]

theorem isSegment_of_mem_token (special : Bool) :
    ∀ s ∈ ["identity", "token"], IsSegment special s ∧ isDots s = false := by
  cases special <;>
    exact List.forall_mem_cons.mpr ⟨⟨⟨by decide, by decide⟩, by decide +kernel⟩,
      List.forall_mem_singleton.mpr ⟨⟨by decide, by decide⟩, by decide +kernel⟩⟩

theorem pathText_token : pathText ["identity", "token"] = tokenPath.toList := by
  decide

/-- Empty segments at the end of a path are slashes. -/
theorem pathText_replicate (k : Nat) : pathText (List.replicate k "") = List.replicate k '/' := by
  rw [pathText_eq]
  induction k with
  | zero => rfl
  | succ k ih => rw [List.replicate_succ, List.flatMap_cons, ih]; rfl

/-- **Segments without the empty ones at the end**, none at all or with an end that is kept. -/
structure IsTrimmed (segs kept : List String) : Prop where
  behind : ∃ k, segs = kept ++ List.replicate k ""
  last : kept = [] ∨ ∃ front d, d ≠ '/' ∧ pathText kept = front ++ [d]

theorem exists_isTrimmed (h : ∀ s ∈ segs, IsSegment special s) : ∃ kept, IsTrimmed segs kept := by
  induction segs using List.reverseRecOn with
  | nil => exact ⟨[], ⟨0, rfl⟩, .inl rfl⟩
  | append_singleton segs s ih =>
    obtain ⟨hsegs, hs⟩ := List.forall_mem_append.mp h
    by_cases hempty : s = ""
    · obtain ⟨kept, ⟨k, hk⟩, hlast⟩ := ih hsegs
      refine ⟨kept, ⟨k + 1, ?_⟩, hlast⟩
      rw [hempty, hk, List.append_assoc, List.replicate_succ']
    · refine ⟨segs ++ [s], ⟨0, by simp⟩, .inr ?_⟩
      obtain ⟨init, d, hd⟩ :=
        (List.eq_nil_or_concat' s.toList).resolve_left (mt String.toList_eq_nil_iff.mp hempty)
      refine ⟨pathText segs ++ '/' :: init, d, ?_, ?_⟩
      · rintro rfl
        have hslash := (hs s List.mem_cons_self).slash '/' (by simp [hd])
        rw [isSlash_slash] at hslash
        cases hslash
      · rw [pathText_append, pathText_singleton, hd, List.append_assoc]
        rfl

/-- The text of a path is trimmed where its segments are, whatever stands in front of it. -/
theorem IsTrimmed.trimmed_append {kept : List String} (h : IsTrimmed segs kept)
    (front : List Char) :
    trimmed (front ++ pathText segs) =
      if kept = [] then trimmed front else front ++ pathText kept := by
  obtain ⟨k, rfl⟩ := h.behind
  rw [pathText_append, pathText_replicate, ← List.append_assoc, trimmed_append_replicate]
  rcases h.last with rfl | ⟨init, d, hd, htext⟩
  · rw [if_pos rfl]
    exact congrArg trimmed (List.append_nil front)
  · rw [if_neg ?_, htext, ← List.append_assoc, trimmed_concat hd]
    rintro rfl
    cases init <;> cases htext

theorem IsTrimmed.trimmed {kept : List String} (h : IsTrimmed segs kept) :
    trimmed (pathText segs) = pathText kept := by
  have htrimmed := h.trimmed_append []
  rw [List.nil_append, List.nil_append] at htrimmed
  rw [htrimmed]
  split
  case isTrue hnil => rw [hnil]; rfl
  case isFalse => rfl

theorem canReplace_token (segs : List String) : CanReplace ["identity", "token"] segs :=
  .inl ⟨_, _, rfl, by decide, by decide⟩

/-- **The path of a completed text** is that of segments that can stand in the place of those that
were there. -/
theorem exists_segments_completed (h : ∀ s ∈ segs, IsSegment special s ∧ isDots s = false) :
    ∃ segs', pathText segs' = completed (pathText segs) ∧
      (∀ s ∈ segs', IsSegment special s ∧ isDots s = false) ∧ CanReplace segs' segs := by
  obtain ⟨kept, hkept⟩ := exists_isTrimmed fun s hs => (h s hs).1
  obtain ⟨k, rfl⟩ := hkept.behind
  rw [completed, hkept.trimmed]
  have hsegs := (List.forall_mem_append.mp h).1
  have htoken := List.forall_mem_append.mpr ⟨hsegs, isSegment_of_mem_token special⟩
  rcases kept with _ | ⟨first, rest⟩
  · refine ⟨["identity", "token"], ?_, isSegment_of_mem_token special, canReplace_token _⟩
    rw [pathText_token]
    decide
  · have hfirst : first = "" → rest ++ List.replicate k "" ≠ [] := by
      rintro rfl hnil
      obtain ⟨front, d, hd, htext⟩ := hkept.last.resolve_left (List.cons_ne_nil _ _)
      rw [(List.append_eq_nil_iff.mp hnil).1, pathText_singleton] at htext
      rcases front with _ | ⟨c, front⟩
      · exact hd (List.cons.inj htext).1.symm
      · cases front <;> cases htext
    by_cases hsuffix : tokenPath.toList <:+ pathText (first :: rest)
    · exact ⟨first :: rest, (complete_of_suffix hsuffix).symm, hsegs,
        .inr ⟨first, _, _, rfl, rfl, hfirst⟩⟩
    · refine ⟨first :: rest ++ ["identity", "token"], ?_, htoken,
        .inr ⟨first, _, _, rfl, rfl, hfirst⟩⟩
      rw [complete_of_not_suffix hsuffix, pathText_append, pathText_token]

end Paths

/-! ## Authorities -/

section Authorities

variable {special : Bool} {segs kept : List String} {name : List Char}

/-- The last two segments of a path decide whether it ends in the token path, whatever stands in
front. -/
theorem suffix_append_pathText_iff {s t : String} (hs : '/' ∉ s.toList) (ht : '/' ∉ t.toList)
    (front : List Char) :
    tokenPath.toList <:+ front ++ pathText (segs ++ [s, t]) ↔ s = "identity" ∧ t = "token" := by
  have htext : front ++ pathText (segs ++ [s, t]) =
      (front ++ pathText segs ++ '/' :: s.toList) ++ '/' :: t.toList := by
    simp [pathText_eq]
  have hidentity : "/identity".toList = [] ++ '/' :: "identity".toList := by decide
  rw [toList_tokenPath, htext, append_cons_suffix_iff (by decide) ht, hidentity,
    append_cons_suffix_iff (by decide) hs, String.toList_inj, String.toList_inj]
  simp [and_comm, eq_comm]

theorem not_mem_of_isSegment {s : String} (h : IsSegment special s) : '/' ∉ s.toList := by
  intro hmem
  have hslash := h.slash '/' hmem
  rw [isSlash_slash] at hslash
  cases hslash

/-- **An authority** does not matter for whether there is a token path, unless both make it up
together. -/
theorem suffix_authority_iff (hkept : ∀ s ∈ kept, IsSegment special s) (hname : '/' ∉ name)
    (hslip : ¬ (name = "identity".toList ∧ pathText kept = "/token".toList)) :
    tokenPath.toList <:+ ('/' :: '/' :: name) ++ pathText kept ↔
      tokenPath.toList <:+ pathText kept := by
  have hidentity : "/identity".toList = [] ++ '/' :: "identity".toList := by decide
  rcases List.eq_nil_or_concat' kept with rfl | ⟨init, t, rfl⟩
  · have hleft : ¬ tokenPath.toList <:+ ('/' :: '/' :: name) ++ pathText [] := by
      have htext : ('/' :: '/' :: name) ++ pathText [] = ['/'] ++ '/' :: name := List.append_nil _
      rw [htext, toList_tokenPath, append_cons_suffix_iff (by decide) hname]
      rintro ⟨-, h⟩
      exact absurd h.length_le (by decide)
    have hright : ¬ tokenPath.toList <:+ pathText [] := fun h => absurd h.length_le (by decide)
    exact iff_of_false hleft hright
  · have ht := not_mem_of_isSegment (hkept t (List.mem_append_right _ List.mem_cons_self))
    rcases List.eq_nil_or_concat' init with rfl | ⟨init, s, rfl⟩
    · rw [List.nil_append] at hslip ⊢
      rw [pathText_singleton] at hslip ⊢
      have hright : ¬ tokenPath.toList <:+ '/' :: t.toList := by
        rw [toList_tokenPath, ← List.nil_append ('/' :: t.toList),
          append_cons_suffix_iff (by decide) ht]
        rintro ⟨-, h⟩
        exact absurd h.length_le (by decide)
      refine iff_of_false (fun h => hslip ?_) hright
      rw [toList_tokenPath, append_cons_suffix_iff (by decide) ht, hidentity] at h
      obtain ⟨htoken, h⟩ := h
      have hfront : "identity".toList = name ∧ [] <:+ ['/'] :=
        (append_cons_suffix_iff (by decide) hname).mp h
      exact ⟨hfront.1.symm, by rw [← htoken]; decide⟩
    · have hs := not_mem_of_isSegment (hkept s (by simp))
      rw [List.append_assoc]
      exact (suffix_append_pathText_iff hs ht _).trans (suffix_append_pathText_iff hs ht []).symm

/-- **Behind an authority** it is the path that is completed. -/
theorem completed_authority (hsegs : ∀ s ∈ segs, IsSegment special s) (hname : '/' ∉ name)
    (hpresent : name = [] → trimmed (pathText segs) ≠ [])
    (hslip : ¬ (name = "identity".toList ∧ trimmed (pathText segs) = "/token".toList)) :
    completed ('/' :: '/' :: (name ++ pathText segs)) =
      '/' :: '/' :: (name ++ completed (pathText segs)) := by
  obtain ⟨kept, hkept⟩ := exists_isTrimmed hsegs
  rw [hkept.trimmed] at hpresent hslip
  have hkeptSegs : ∀ s ∈ kept, IsSegment special s := by
    obtain ⟨k, rfl⟩ := hkept.behind
    exact (List.forall_mem_append.mp hsegs).1
  have htrimmed : trimmed (('/' :: '/' :: name) ++ pathText segs) =
      ('/' :: '/' :: name) ++ pathText kept := by
    rw [hkept.trimmed_append]
    split
    case isTrue hnil =>
      subst hnil
      obtain ⟨init, d, rfl⟩ := (List.eq_nil_or_concat' name).resolve_left fun h => hpresent h rfl
      have hd : d ≠ '/' := ne_of_mem_of_not_mem (List.mem_append_right _ List.mem_cons_self) hname
      rw [← List.cons_append, ← List.cons_append, trimmed_concat hd]
      exact (List.append_nil _).symm
    case isFalse => rfl
  have hcomplete := complete_append (suffix_authority_iff hkeptSegs hname hslip)
  rw [← htrimmed] at hcomplete
  have hpath : completed (pathText segs) = complete (pathText kept) := by
    rw [completed, hkept.trimmed]
  rw [hpath]
  exact hcomplete

/-- An authority and a path that make up the token path together are left alone. -/
theorem completed_authority_token (hsegs : ∀ s ∈ segs, IsSegment special s)
    (hpath : trimmed (pathText segs) = "/token".toList) :
    completed ('/' :: '/' :: ("identity".toList ++ pathText segs)) = '/' :: tokenPath.toList := by
  obtain ⟨kept, hkept⟩ := exists_isTrimmed hsegs
  rw [hkept.trimmed] at hpath
  have htrimmed : trimmed ("//identity".toList ++ pathText segs) = '/' :: tokenPath.toList := by
    rw [hkept.trimmed_append, hpath, if_neg ?_]
    · decide
    · rintro rfl
      exact absurd hpath (by decide)
  have hcomplete := complete_of_suffix (List.suffix_cons '/' tokenPath.toList)
  rw [← htrimmed] at hcomplete
  exact hcomplete.trans htrimmed

/-- Of slashes without an authority only the token path is left. -/
theorem completed_bare (hsegs : ∀ s ∈ segs, IsSegment special s)
    (hpath : trimmed (pathText segs) = []) :
    completed ('/' :: '/' :: pathText segs) = tokenPath.toList := by
  obtain ⟨kept, hkept⟩ := exists_isTrimmed hsegs
  rw [hkept.trimmed] at hpath
  have hnil : kept = [] := by
    rcases kept with _ | ⟨s, kept⟩
    · rfl
    · rw [pathText_eq] at hpath
      cases hpath
  have htrimmed := hkept.trimmed_append ['/', '/']
  rw [if_pos hnil] at htrimmed
  rw [completed]
  change complete (trimmed (['/', '/'] ++ pathText segs)) = _
  rw [htrimmed]
  decide

end Authorities

end Outbound.IamConfig
