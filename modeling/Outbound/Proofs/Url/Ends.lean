import Outbound.Proofs.Url.Paths

/-!
# Schemes, queries and fragments

The two ends of a URL are found again in its text.

* **visible** — text without blanks and controls is visible (`visible_of_clean`), and nothing of
  what ends visibly is trimmed (`trimControls_of_visible`);
* **schemes** — what is read as a scheme is a letter with letters, digits and three signs behind it,
  in lower case (`isScheme_of_splitScheme`), and such a scheme is found in front of its colon
  (`splitScheme_append`);
* **marks** — query and fragment are clean (`isMarks_of_queryAndFragment`), and are found behind
  their marks (`queryAndFragment_marks`).
-/

namespace Outbound.Url

open Outbound.Text

/-! ## Visible text -/

/-- Neither blanks nor controls. -/
def IsVisible (c : Char) : Prop := 0x20 < c.toNat

instance (c : Char) : Decidable (IsVisible c) := inferInstanceAs (Decidable (_ < _))

/-- Controls and the blank. -/
def inBlanks (c : Char) : Bool := inControls c || c == ' '

theorem inBlanks_le {set : Char → Bool} (hset : Encoding set) (hspace : set ' ' = true) (c : Char)
    (h : inBlanks c = true) : set c = true := by
  rw [inBlanks, Bool.or_eq_true, beq_iff_eq] at h
  rcases h with h | rfl
  · exact hset.controls c h
  · exact hspace

theorem encoding_inBlanks : Encoding inBlanks :=
  ⟨fun c h => by rw [inBlanks, h, Bool.true_or], by decide⟩

/-- **Text without blanks** and controls is visible. -/
theorem visible_of_clean {cs : List Char} (h : Clean inBlanks cs) : ∀ c ∈ cs, IsVisible c := by
  intro c hc
  have hkept := (h c hc).2
  simp only [inBlanks, inControls, Bool.or_eq_false_iff, decide_eq_false_iff_not,
    beq_eq_false_iff_ne] at hkept
  have hne : c.toNat ≠ 0x20 := by
    intro heq
    exact hkept.2 (by rw [← Char.ofNat_toNat c, heq])
  rw [IsVisible]
  omega

/-- **Trimming** leaves text as it is whose ends are visible. -/
theorem trimControls_of_visible {cs : List Char} (hhead : ∀ c ∈ cs.head?, IsVisible c)
    (hlast : ∀ c ∈ cs.getLast?, IsVisible c) : trimControls cs = cs := by
  have hfront : cs.dropWhile (·.toNat ≤ 0x20) = cs := by
    cases cs with
    | nil => rfl
    | cons c cs =>
      have hc : ¬ (c.toNat ≤ 0x20) := Nat.not_le_of_lt (hhead c rfl)
      rw [List.dropWhile_cons_of_neg (by simpa using hc)]
  rw [trimControls, hfront, dropEndWhile_eq_rdropWhile, List.rdropWhile_eq_self_iff]
  intro hne hblank
  have hvisible := hlast _ (List.getLast?_eq_some_getLast hne)
  exact absurd (of_decide_eq_true hblank) (Nat.not_le_of_lt hvisible)

/-! ## Schemes -/

/-- The characters of a scheme. -/
def isSchemeChar (c : Char) : Bool := c.isAlphanum || c == '+' || c == '-' || c == '.'

/-- **Schemes**: a letter in front, and everything in lower case. -/
structure IsScheme (scheme : String) : Prop where
  head : ∀ c ∈ scheme.toList.head?, c.isAlpha = true
  present : scheme ≠ ""
  chars : ∀ c ∈ scheme.toList, isSchemeChar c = true
  case : lower scheme = scheme

theorem lt_of_isSchemeChar {c : Char} (h : isSchemeChar c = true) : c.toNat < 0x80 := by
  simp only [isSchemeChar, Bool.or_eq_true, beq_iff_eq] at h
  rcases h with ((h | rfl) | rfl) | rfl
  · exact lt_of_isAlphanum h
  all_goals decide

/-- **Lower case** keeps letters letters, and is the same twice. -/
theorem toLower_of_isSchemeChar {c : Char} (h : isSchemeChar c = true) :
    isSchemeChar c.toLower = true ∧ (c.isAlpha = true → c.toLower.isAlpha = true) ∧
      c.toLower.toLower = c.toLower := by
  have hall : ∀ n < 0x80, isSchemeChar (Char.ofNat n) = true →
      isSchemeChar (Char.ofNat n).toLower = true ∧
        ((Char.ofNat n).isAlpha = true → (Char.ofNat n).toLower.isAlpha = true) ∧
        (Char.ofNat n).toLower.toLower = (Char.ofNat n).toLower := by decide +kernel
  exact forall_of_lt (p := fun c => isSchemeChar c = true → isSchemeChar c.toLower = true ∧
    (c.isAlpha = true → c.toLower.isAlpha = true) ∧ c.toLower.toLower = c.toLower) hall
    (lt_of_isSchemeChar h) h

theorem clean_of_isSchemeChar {cs : List Char} (h : ∀ c ∈ cs, isSchemeChar c = true) :
    Clean inPath cs := by
  have hall : ∀ n < 0x80, isSchemeChar (Char.ofNat n) = true → inPath (Char.ofNat n) = false := by
    decide +kernel
  exact fun c hc => ⟨lt_of_isSchemeChar (h c hc),
    forall_of_lt (p := fun c => isSchemeChar c = true → inPath c = false) hall
      (lt_of_isSchemeChar (h c hc)) (h c hc)⟩

theorem splitScheme_eq (cs : List Char) :
    splitScheme cs = match cs.takeWhile isSchemeChar, cs.dropWhile isSchemeChar with
      | c :: name, ':' :: rest =>
        if c.isAlpha then some (lower (String.ofList (c :: name)), rest) else none
      | _, _ => none := rfl

/-- **A scheme** is found in front of its colon. -/
theorem splitScheme_append {scheme : String} (h : IsScheme scheme) (rest : List Char) :
    splitScheme (scheme.toList ++ ':' :: rest) = some (scheme, rest) := by
  have htake : (scheme.toList ++ ':' :: rest).takeWhile isSchemeChar = scheme.toList :=
    takeWhile_append_of_stop h.chars (by rintro c ⟨⟩; decide)
  have hdrop : (scheme.toList ++ ':' :: rest).dropWhile isSchemeChar = ':' :: rest :=
    dropWhile_append_of_stop h.chars (by rintro c ⟨⟩; decide)
  obtain ⟨c, name, hname⟩ := List.exists_cons_of_ne_nil (mt String.toList_eq_nil_iff.mp h.present)
  have halpha : c.isAlpha = true := h.head c (by rw [hname]; rfl)
  rw [splitScheme_eq, htake, hdrop, hname]
  change (if c.isAlpha then _ else none) = _
  rw [if_pos halpha, ← hname, String.ofList_toList, h.case]

/-- **What is read as a scheme** is one. -/
theorem of_splitScheme {cs rest : List Char} {scheme : String}
    (h : splitScheme cs = some (scheme, rest)) :
    IsScheme scheme ∧ ∃ name, cs = name ++ ':' :: rest ∧ ':' ∉ name := by
  rw [splitScheme_eq] at h
  split at h
  case h_1 c name rest' htake hdrop =>
    obtain ⟨halpha, h⟩ := Option.ite_none_right_eq_some.mp h
    obtain ⟨rfl, rfl⟩ := Prod.mk.inj (Option.some.inj h)
    have hchars : ∀ d ∈ c :: name, isSchemeChar d = true := by
      rw [← htake]
      exact fun d => List.mem_takeWhile_imp
    have htext : (lower (String.ofList (c :: name))).toList = (c :: name).map Char.toLower := by
      rw [lower, String.toList_map, String.toList_ofList]
    refine ⟨⟨?_, ?_, ?_, ?_⟩, c :: name, ?_, ?_⟩
    · rw [htext]
      rintro d ⟨⟩
      exact (toLower_of_isSchemeChar (hchars c List.mem_cons_self)).2.1 halpha
    · intro hempty
      rw [hempty] at htext
      cases htext
    · rw [htext]
      intro d hd
      obtain ⟨e, he, rfl⟩ := List.mem_map.mp hd
      exact (toLower_of_isSchemeChar (hchars e he)).1
    · rw [← String.toList_inj, lower, String.toList_map, htext, List.map_map]
      exact List.map_congr_left fun d hd => (toLower_of_isSchemeChar (hchars d hd)).2.2
    · rw [← htake, ← hdrop, List.takeWhile_append_dropWhile]
    · exact fun hcolon => absurd (hchars ':' hcolon) (by decide)
  case h_2 => cases h

/-! ## Query and fragment -/

/-- **Query and fragment** as they are written. -/
structure IsMarks (special : Bool) (query fragment : Option String) : Prop where
  query : ∀ s ∈ query, Clean (inQuery special) s.toList
  fragment : ∀ s ∈ fragment, Clean inFragment s.toList

/-- The text of a query and a fragment. -/
def marks (query fragment : Option String) : List Char :=
  (marked "?" query ++ marked "#" fragment).toList

theorem isMarks_of_queryAndFragment {special : Bool} {cs : List Char}
    {query fragment : Option String}
    (h : queryAndFragment special cs = (query, fragment)) : IsMarks special query fragment := by
  have hclean : ∀ {set : Char → Bool}, Encoding set → ∀ cs : List Char,
      ∀ s ∈ some (String.ofList (percentEncode set cs)), Clean set s.toList := by
    rintro set hset cs s ⟨⟩
    rw [String.toList_ofList]
    exact clean_percentEncode hset
  unfold queryAndFragment at h
  dsimp only at h
  split at h
  case h_1 cs =>
    split at h
    case h_1 =>
      obtain ⟨rfl, rfl⟩ := Prod.mk.inj h
      exact ⟨hclean (encoding_inQuery special) _, hclean encoding_inFragment _⟩
    case h_2 =>
      obtain ⟨rfl, rfl⟩ := Prod.mk.inj h
      exact ⟨hclean (encoding_inQuery special) _, nofun⟩
  case h_2 =>
    obtain ⟨rfl, rfl⟩ := Prod.mk.inj h
    exact ⟨nofun, hclean encoding_inFragment _⟩
  case h_3 =>
    obtain ⟨rfl, rfl⟩ := Prod.mk.inj h
    exact ⟨nofun, nofun⟩

/-- **Without query and fragment** nothing ends a path. -/
theorem dropWhile_eq_nil_of_queryAndFragment {special : Bool} {cs : List Char}
    (h : queryAndFragment special (cs.dropWhile (!endsPath ·)) = (none, none)) :
    cs.dropWhile (!endsPath ·) = [] := by
  have hnot := List.head?_dropWhile_not (!endsPath ·) cs
  generalize cs.dropWhile (!endsPath ·) = rest at h hnot ⊢
  cases rest with
  | nil => rfl
  | cons c rest =>
    have hends : endsPath c = true := by simpa using hnot
    rw [endsPath, Bool.or_eq_true, beq_iff_eq, beq_iff_eq] at hends
    rcases hends with rfl | rfl
    · rw [queryAndFragment] at h
      split at h <;> cases h
    · cases h

section Marks

variable {special : Bool} {query fragment : Option String}

theorem marks_eq : marks query fragment =
    (match query with
      | some s => '?' :: s.toList
      | none => []) ++
    (match fragment with
      | some s => '#' :: s.toList
      | none => []) := by
  rw [marks, String.toList_append]
  cases query <;> cases fragment <;> simp [marked]

theorem marks_eq_nil_iff : marks query fragment = [] ↔ query = none ∧ fragment = none := by
  rw [marks_eq]
  cases query <;> cases fragment <;> simp

/-- **The marks** end a path. -/
theorem endsPath_of_mem_head?_marks : ∀ c ∈ (marks query fragment).head?, endsPath c = true := by
  rw [marks_eq]
  rcases query with _ | query <;> rcases fragment with _ | fragment
  · exact nofun
  all_goals
    rintro c ⟨⟩
    decide

theorem ofList_percentEncode {set : Char → Bool} {s : String} (h : Clean set s.toList) :
    String.ofList (percentEncode set s.toList) = s := by
  rw [percentEncode_of_clean h, String.ofList_toList]

/-- **Query and fragment** are found behind their marks. -/
theorem queryAndFragment_marks (h : IsMarks special query fragment) :
    queryAndFragment special (marks query fragment) = (query, fragment) := by
  have hstop : ∀ {query : String}, Clean (inQuery special) query.toList →
      ∀ c ∈ query.toList, (c != '#') = true := by
    intro query hquery c hc
    rw [bne_iff_ne]
    rintro rfl
    exact hquery.not_mem (by cases special <;> decide) hc
  rw [marks_eq]
  cases hq : query with
  | none =>
    cases hf : fragment with
    | none => rfl
    | some f =>
      have hfragment := ofList_percentEncode (h.fragment f hf)
      exact congrArg (fun f => (none, some f)) hfragment
  | some q =>
    have hquery := h.query q hq
    have htext := ofList_percentEncode hquery
    cases hf : fragment with
    | none =>
      have htake : (q.toList ++ []).takeWhile (· != '#') = q.toList :=
        takeWhile_append_of_stop (hstop hquery) nofun
      have hdrop : (q.toList ++ []).dropWhile (· != '#') = [] :=
        dropWhile_append_of_stop (hstop hquery) nofun
      rw [List.cons_append, queryAndFragment]
      dsimp only
      rw [htake, hdrop, htext]
    | some f =>
      have hfragment := ofList_percentEncode (h.fragment f hf)
      have hmark : ∀ c ∈ ('#' :: f.toList).head?, (c != '#') = false := by
        rintro c ⟨⟩
        rfl
      have htake := takeWhile_append_of_stop (hstop hquery) hmark
      have hdrop := dropWhile_append_of_stop (hstop hquery) hmark
      rw [List.cons_append, queryAndFragment]
      dsimp only
      rw [htake, hdrop, htext]
      dsimp only
      rw [hfragment]

theorem clean_marks (h : IsMarks special query fragment) :
    Clean inBlanks (marks query fragment) := by
  rw [marks_eq]
  refine clean_append.mpr ⟨?_, ?_⟩
  · cases hq : query with
    | none => exact clean_nil
    | some q =>
      exact clean_cons.mpr ⟨by decide, (h.query q hq).mono
        (inBlanks_le (encoding_inQuery special) (by cases special <;> decide))⟩
  · cases hf : fragment with
    | none => exact clean_nil
    | some f =>
      exact clean_cons.mpr ⟨by decide,
        (h.fragment f hf).mono (inBlanks_le encoding_inFragment (by decide))⟩

end Marks

end Outbound.Url
