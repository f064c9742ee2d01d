import Outbound.Proofs.Url.Authorities
import Outbound.Proofs.Url.Ends

/-!
# URLs and their texts

A URL of one of the four shapes that a text can have (`Written`) is read from its text.

* **scheme** — a text with a scheme in front is read behind it (`parse_of_text`);
* **authority** — behind two slashes authority, path and marks are found one after the other
  (`parseBehind_authority`);
* **no authority** — one slash makes a path of segments (`parseBehind_rooted`), with a guard in
  front if it would begin with two (`parseBehind_guarded`), and no slash one that is kept as it is
  (`parseBehind_verbatim`);
* **file** — a host that is no drive stands in front of a path without empty segments
  (`parseBehind_file`);
* **reading back** — nothing of such a text is trimmed or dropped (`Written.clean`), so that it is
  read as the URL (`Written.parse`).
-/

namespace Outbound.Url

open Outbound.Text

/-! ## Behind the scheme -/

/-- **What is read** behind the colon of a scheme. -/
def parseBehind (scheme : String) (cs : List Char) : Except UrlError Url :=
  if scheme = "file" then parseFile cs
  else if isSpecial scheme then parseWithAuthority scheme (cs.dropWhile (isSlash true))
  else match cs with
  | '/' :: '/' :: rest => parseWithAuthority scheme rest
  | '/' :: rest =>
    .ok <| assemble scheme none
      (.segments (segmentsOf false (rest.takeWhile (!endsPath ·))))
      (rest.dropWhile (!endsPath ·))
  | rest =>
    .ok <| assemble scheme none
      (.verbatim (String.ofList (percentEncode inControls (rest.takeWhile (!endsPath ·)))))
      (rest.dropWhile (!endsPath ·))

theorem parse_eq (s : String) :
    parse s =
      match splitScheme (withoutBreaks (trimControls s.toList)) with
      | none => .error .relativeWithoutBase
      | some (scheme, rest) =>
        parseBehind scheme
          (if scheme = "file" then ((trimControls s.toList).dropWhile (· != ':')).drop 1
            else rest) := by
  unfold parse
  dsimp only
  rcases splitScheme (withoutBreaks (trimControls s.toList)) with _ | ⟨scheme, rest⟩
  · rfl
  · unfold parseBehind
    dsimp only
    by_cases hfile : scheme = "file"
    · rw [if_pos hfile, if_pos hfile, if_pos hfile]
    · rewrite [if_neg hfile, if_neg hfile, if_neg hfile]
      rfl

theorem visible_scheme {scheme : String} (h : IsScheme scheme) : ∀ c ∈ scheme.toList, IsVisible c :=
  visible_of_clean ((clean_of_isSchemeChar h.chars).mono (inBlanks_le encoding_inPath (by decide)))

/-- **A text with a scheme** in front is read behind it, if nothing of it is dropped. -/
theorem parse_of_text {s scheme : String} {rest : List Char}
    (htext : s.toList = scheme.toList ++ ':' :: rest)
    (hscheme : IsScheme scheme) (hclean : Clean inControls rest)
    (hlast : ∀ c ∈ rest.getLast?, IsVisible c) :
    parse s = parseBehind scheme rest := by
  have hcontrols : Clean inControls (scheme.toList ++ ':' :: rest) := by
    refine clean_append.mpr ⟨?_, clean_cons.mpr ⟨by decide, hclean⟩⟩
    exact (clean_of_isSchemeChar hscheme.chars).controls encoding_inPath
  have htrim : trimControls (scheme.toList ++ ':' :: rest) = scheme.toList ++ ':' :: rest := by
    refine trimControls_of_visible (fun c hc => ?_) (fun c hc => ?_)
    · obtain ⟨d, name, hname⟩ :=
        List.exists_cons_of_ne_nil (mt String.toList_eq_nil_iff.mp hscheme.present)
      rw [hname] at hc
      obtain rfl := Option.some.inj hc
      exact visible_scheme hscheme _ (by rw [hname]; exact List.mem_cons_self)
    · rcases List.eq_nil_or_concat' rest with rfl | ⟨init, last, rfl⟩
      · rw [List.getLast?_concat] at hc
        obtain rfl := Option.some.inj hc
        decide
      · rw [← List.cons_append, ← List.append_assoc, List.getLast?_concat] at hc
        exact hlast c (by rwa [List.getLast?_concat])
  have hcolon : (scheme.toList ++ ':' :: rest).dropWhile (· != ':') = ':' :: rest := by
    refine dropWhile_append_of_stop (fun c hc => ?_) (by rintro c ⟨⟩; rfl)
    rw [bne_iff_ne]
    rintro rfl
    exact absurd (hscheme.chars ':' hc) (by decide)
  rw [parse_eq, htext, htrim, withoutBreaks_of_clean hcontrols, splitScheme_append hscheme, hcolon]
  dsimp only
  rw [List.drop_one, List.tail_cons, ite_self]

/-! ## Shapes -/

/-- What a path that is kept as it is cannot have. -/
def inVerbatim (c : Char) : Bool := inControls c || endsPath c

/-- **URLs that their text stands for**, by the four shapes that it can have. -/
inductive Written : Url → Prop
  | authority {scheme a segs query fragment} (hscheme : IsScheme scheme) (hfile : scheme ≠ "file")
      (hauthority : a.Written scheme)
      (hsegs : ∀ s ∈ segs, IsSegment (isSpecial scheme) s ∧ isDots s = false)
      (hpresent : isSpecial scheme = true → segs ≠ [])
      (hmarks : IsMarks (isSpecial scheme) query fragment) :
      Written ⟨scheme, some a, .segments segs, query, fragment⟩
  | rooted {scheme segs query fragment} (hscheme : IsScheme scheme)
      (hspecial : isSpecial scheme = false)
      (hsegs : ∀ s ∈ segs, IsSegment false s ∧ isDots s = false) (hpresent : segs ≠ [])
      (hmarks : IsMarks false query fragment) :
      Written ⟨scheme, none, .segments segs, query, fragment⟩
  | verbatim {scheme path query fragment} (hscheme : IsScheme scheme)
      (hspecial : isSpecial scheme = false)
      (hpath : Clean inVerbatim path.toList) (hrootless : ∀ c ∈ path.toList.head?, c ≠ '/')
      (hlast : query = none → fragment = none → ∀ c ∈ path.toList.getLast?, IsVisible c)
      (hmarks : IsMarks false query fragment) :
      Written ⟨scheme, none, .verbatim path, query, fragment⟩
  | file {host segs query fragment}
      (hhost : host = .name "" ∨ host.Written true ∧ host ≠ .name "localhost" ∧
        ∀ first ∈ segs.head?, drive? first.toList = none)
      (htop : IsTop segs) (hsegs : ∀ s ∈ segs, IsSegment true s ∧ isDots s = false)
      (hmarks : IsMarks true query fragment) :
      Written ⟨"file", some ⟨"", "", host, none⟩, .segments segs, query, fragment⟩

/-- The text of an optional authority behind its slashes. -/
def authorityText : Option Authority → List Char
  | some a => '/' :: '/' :: a.text.toList
  | none => []

/-- The text of a URL behind its scheme. -/
def behind (u : Url) : List Char :=
  authorityText u.authority ++
    (u.pathGuard.toList ++ (u.path.text.toList ++ marks u.query u.fragment))

theorem toList_text (u : Url) : u.text.toList = u.scheme.toList ++ ':' :: u.behind := by
  obtain ⟨scheme, authority, path, query, fragment⟩ := u
  cases authority <;> simp [text, behind, authorityText, marks]

/-! ## Reading back -/

section Back

variable {scheme : String} {a : Authority} {segs : List String} {query fragment : Option String}

/-- **Behind the path** stand query and fragment. -/
theorem assemble_marks {authority : Option Authority} {path : Path}
    (h : IsMarks (isSpecial scheme) query fragment) :
    assemble scheme authority path (marks query fragment) =
      ⟨scheme, authority, path, query, fragment⟩ := by
  rw [assemble, queryAndFragment_marks h]

/-- **A path** ends at the first mark. -/
theorem takeWhile_path (query fragment : Option String) {path : List Char}
    (h : ∀ c ∈ path, endsPath c = false) :
    (path ++ marks query fragment).takeWhile (!endsPath ·) = path ∧
      (path ++ marks query fragment).dropWhile (!endsPath ·) = marks query fragment := by
  have hpath : ∀ c ∈ path, (!endsPath c) = true := fun c hc => by rw [h c hc]; rfl
  have hmarks : ∀ c ∈ (marks query fragment).head?, (!endsPath c) = false :=
    fun c hc => by rw [endsPath_of_mem_head?_marks c hc]; rfl
  exact ⟨takeWhile_append_of_stop hpath hmarks, dropWhile_append_of_stop hpath hmarks⟩

theorem endsPath_of_clean {set : Char → Bool} {cs : List Char}
    (hset : ∀ c ∈ ['?', '#'], set c = true) (h : Clean set cs) : ∀ c ∈ cs, endsPath c = false := by
  intro c hc
  rw [endsPath, Bool.or_eq_false_iff, beq_eq_false_iff_ne, beq_eq_false_iff_ne]
  constructor
  · rintro rfl
    exact h.not_mem (hset '?' (by simp)) hc
  · rintro rfl
    exact h.not_mem (hset '#' (by simp)) hc

theorem clean_joined {special : Bool} (h : ∀ s ∈ segs, IsSegment special s) :
    Clean inPath (joined segs) := by
  refine forall_mem_intercalate (by decide) fun part hpart => ?_
  obtain ⟨s, hs, rfl⟩ := List.mem_map.mp hpart
  exact (h s hs).clean

theorem clean_segments {special : Bool} (h : ∀ s ∈ segs, IsSegment special s) :
    Clean inPath (Path.segments segs).text.toList := by
  by_cases hne : segs = []
  · rw [hne]
    exact clean_nil
  · rw [toList_text_segments hne]
    exact clean_cons.mpr ⟨by decide, clean_joined h⟩

theorem endsAuthority_of_clean (special : Bool) {cs : List Char} (h : Clean inAuthority cs) :
    ∀ c ∈ cs, (!endsAuthority special c) = true := by
  intro c hc
  have hpath := endsPath_of_clean (by decide) h c hc
  have hslash : isSlash special c = false := by
    rw [isSlash, Bool.or_eq_false_iff, beq_eq_false_iff_ne, Bool.and_eq_false_imp]
    constructor
    · rintro rfl
      exact h.not_mem (by decide) hc
    · intro _
      rw [beq_eq_false_iff_ne]
      rintro rfl
      exact h.not_mem (by decide) hc
  rw [endsAuthority, hslash, hpath]
  rfl

/-- An authority ends at a slash, or at the first mark if there is no path. -/
theorem endsAuthority_head? (special : Bool) (segs : List String) (query fragment : Option String) :
    ∀ c ∈ ((Path.segments segs).text.toList ++ marks query fragment).head?,
      (!endsAuthority special c) = false := by
  by_cases hne : segs = []
  · rw [hne]
    intro c hc
    rw [endsAuthority, endsPath_of_mem_head?_marks c hc, Bool.or_true]
    rfl
  · rw [toList_text_segments hne]
    rintro c ⟨⟩
    rfl

/-- **Behind the slashes** authority and path are read back. -/
theorem parseWithAuthority_text (hauthority : a.Written scheme)
    (hsegs : ∀ s ∈ segs, IsSegment (isSpecial scheme) s ∧ isDots s = false)
    (hpresent : isSpecial scheme = true → segs ≠ [])
    (hmarks : IsMarks (isSpecial scheme) query fragment) :
    parseWithAuthority scheme
        (a.text.toList ++ ((Path.segments segs).text.toList ++ marks query fragment)) =
      .ok ⟨scheme, some a, .segments segs, query, fragment⟩ := by
  have hclean := hauthority.clean
  have htake := takeWhile_append_of_stop (endsAuthority_of_clean (isSpecial scheme) hclean)
    (endsAuthority_head? (isSpecial scheme) segs query fragment)
  have hdrop := dropWhile_append_of_stop (endsAuthority_of_clean (isSpecial scheme) hclean)
    (endsAuthority_head? (isSpecial scheme) segs query fragment)
  obtain ⟨hpath, hrest⟩ := takeWhile_path query fragment
    (endsPath_of_clean (by decide) (clean_segments fun s hs => (hsegs s hs).1))
  have hsegments : (if (Path.segments segs).text.toList.isEmpty && !isSpecial scheme then []
      else segmentsOf (isSpecial scheme)
        (dropSlash (isSpecial scheme) (Path.segments segs).text.toList)) =
        segs := by
    by_cases hne : segs = []
    · have hspecial : isSpecial scheme = false := by
        rw [← Bool.not_eq_true]
        exact fun h => hpresent h hne
      rw [hspecial, hne]
      rfl
    · rw [toList_text_segments hne, dropSlash, isSlash_slash, if_pos rfl,
        segmentsOf_joined hne hsegs]
      rfl
  unfold parseWithAuthority
  dsimp only
  rw [htake, hdrop, hauthority.parse]
  change Except.ok (assemble _ _ _ _) = _
  rw [hpath, hrest, hsegments, assemble_marks hmarks]

theorem ne_file_of_not_isSpecial (hspecial : isSpecial scheme = false) : scheme ≠ "file" := by
  rintro rfl
  cases hspecial

/-- **A rooted URL** has one slash behind its scheme. -/
theorem parseBehind_of_slash {cs : List Char} (hspecial : isSpecial scheme = false)
    (h : ∀ c ∈ cs.head?, c ≠ '/') :
    parseBehind scheme ('/' :: cs) =
      .ok (assemble scheme none (.segments (segmentsOf false (cs.takeWhile (!endsPath ·))))
        (cs.dropWhile (!endsPath ·))) := by
  unfold parseBehind
  rw [if_neg (ne_file_of_not_isSpecial hspecial), hspecial, if_neg Bool.false_ne_true]
  split
  case h_1 rest heq =>
    obtain rfl := (List.cons.inj heq).2
    exact absurd rfl (h '/' rfl)
  case h_2 rest _ heq =>
    obtain rfl := (List.cons.inj heq).2
    rfl
  case h_3 hrootless => exact absurd rfl (hrootless cs)

/-- A URL that is not rooted has none. -/
theorem parseBehind_of_rootless {cs : List Char} (hspecial : isSpecial scheme = false)
    (h : ∀ c ∈ cs.head?, c ≠ '/') :
    parseBehind scheme cs =
      .ok (assemble scheme none
        (.verbatim (String.ofList (percentEncode inControls (cs.takeWhile (!endsPath ·)))))
        (cs.dropWhile (!endsPath ·))) := by
  unfold parseBehind
  rw [if_neg (ne_file_of_not_isSpecial hspecial), hspecial, if_neg Bool.false_ne_true]
  split
  case h_1 => exact absurd rfl (h '/' rfl)
  case h_2 => exact absurd rfl (h '/' rfl)
  case h_3 => rfl

/-- A path that does not begin with a slash gets none from what stands behind it. -/
theorem ne_slash_of_mem_head? {path : List Char} (h : ∀ c ∈ path.head?, c ≠ '/') :
    ∀ c ∈ (path ++ marks query fragment).head?, c ≠ '/' := by
  cases path with
  | nil =>
    rintro c hc rfl
    cases endsPath_of_mem_head?_marks '/' hc
  | cons d path => exact h

/-- The text of an authority of a special scheme is there. -/
theorem Authority.Written.text_ne_nil (h : a.Written scheme) (hspecial : isSpecial scheme = true) :
    a.text.toList ≠ [] := by
  have hhost := h.host
  rw [hspecial] at hhost
  rw [a.toList_text]
  simp [hhost.text_ne_nil]

theorem parseBehind_authority (hfile : scheme ≠ "file") (hauthority : a.Written scheme)
    (hsegs : ∀ s ∈ segs, IsSegment (isSpecial scheme) s ∧ isDots s = false)
    (hpresent : isSpecial scheme = true → segs ≠ [])
    (hmarks : IsMarks (isSpecial scheme) query fragment) :
    parseBehind scheme (behind ⟨scheme, some a, .segments segs, query, fragment⟩) =
      .ok ⟨scheme, some a, .segments segs, query, fragment⟩ := by
  have hread := parseWithAuthority_text hauthority hsegs hpresent hmarks
  have hbehind : behind ⟨scheme, some a, .segments segs, query, fragment⟩ =
      '/' :: '/' :: (a.text.toList ++ ((Path.segments segs).text.toList ++ marks query fragment)) :=
        rfl
  unfold parseBehind
  rw [if_neg hfile, hbehind]
  split
  case isTrue hspecial =>
    have hdrop : ('/' :: '/' :: (a.text.toList ++ ((Path.segments segs).text.toList ++
        marks query fragment))).dropWhile (isSlash true) =
          a.text.toList ++ ((Path.segments segs).text.toList ++ marks query fragment) := by
      obtain ⟨c, cs, hcs⟩ := List.exists_cons_of_ne_nil (hauthority.text_ne_nil hspecial)
      have hc := endsAuthority_of_clean true hauthority.clean c (by simp [hcs])
      have hslash : isSlash true c = false := by
        rw [endsAuthority, Bool.not_eq_true', Bool.or_eq_false_iff] at hc
        exact hc.1
      have hslashes : ∀ c ∈ ['/', '/'], isSlash true c = true := by decide
      refine dropWhile_append_of_stop hslashes ?_
      rw [hcs]
      rintro _ ⟨⟩
      exact hslash
    rw [hdrop, hread]
  case isFalse => exact hread

/-- Without an empty segment in front there is no guard. -/
theorem pathGuard_of_ne {s : String} (hs : s ≠ "") :
    pathGuard ⟨scheme, none, .segments (s :: segs), query, fragment⟩ = "" := by
  unfold pathGuard
  split
  case h_1 heq => exact absurd (List.cons.inj (Path.segments.inj heq)).1 hs
  case h_2 => rfl

theorem ne_slash_of_isSegment {special : Bool} {s : String} (h : IsSegment special s) :
    ∀ c ∈ s.toList.head?, c ≠ '/' := by
  rintro c hc rfl
  have hslash := h.slash '/' (List.mem_of_mem_head? hc)
  rw [isSlash_slash] at hslash
  cases hslash

/-- **A guard** stands in front of a path whose text would begin like an authority, and of no
other. -/
theorem pathGuard_cases (scheme : String) (query fragment : Option String)
    (hsegs : ∀ s ∈ segs, IsSegment false s) :
    pathGuard ⟨scheme, none, .segments segs, query, fragment⟩ = "" ∧
        (∀ c ∈ (joined segs).head?, c ≠ '/') ∨
      pathGuard ⟨scheme, none, .segments segs, query, fragment⟩ = "/." := by
  rcases segs with _ | ⟨s, segs⟩
  · exact .inl ⟨rfl, nofun⟩
  · have hhead := ne_slash_of_isSegment (hsegs s List.mem_cons_self)
    by_cases hs : s = ""
    · subst hs
      cases segs with
      | nil => exact .inl ⟨rfl, nofun⟩
      | cons s' segs => exact .inr rfl
    · refine .inl ⟨pathGuard_of_ne hs, ?_⟩
      obtain ⟨c, cs, hcs⟩ := List.exists_cons_of_ne_nil (mt String.toList_eq_nil_iff.mp hs)
      rw [hcs] at hhead
      rcases segs with _ | ⟨s', segs⟩
      · have htext : joined [s] = s.toList := List.intercalate_singleton
        rw [htext, hcs]
        exact hhead
      · rw [joined_cons s (List.cons_ne_nil _ _), hcs]
        exact hhead

/-- **A path behind a guard** is read without it. -/
theorem parseBehind_guarded (hspecial : isSpecial scheme = false)
    (hsegs : ∀ s ∈ segs, IsSegment false s ∧ isDots s = false) (hpresent : segs ≠ [])
    (hmarks : IsMarks false query fragment) :
    parseBehind scheme ("/.".toList ++ ((Path.segments segs).text.toList ++ marks query fragment)) =
      .ok ⟨scheme, none, .segments segs, query, fragment⟩ := by
  have hmarks' : IsMarks (isSpecial scheme) query fragment := by rwa [hspecial]
  have hends : ∀ c ∈ '.' :: '/' :: joined segs, endsPath c = false :=
    List.forall_mem_cons.mpr ⟨by decide, List.forall_mem_cons.mpr ⟨by decide,
      endsPath_of_clean (by decide) (clean_joined fun s hs => (hsegs s hs).1)⟩⟩
  have htext : "/.".toList ++ ((Path.segments segs).text.toList ++ marks query fragment) =
      '/' :: ('.' :: '/' :: joined segs ++ marks query fragment) := by
    rw [toList_text_segments hpresent]
    rfl
  obtain ⟨hpath, hrest⟩ := takeWhile_path query fragment hends
  rw [htext, parseBehind_of_slash hspecial ?_, hpath, hrest, segmentsOf_dot_joined hpresent hsegs,
    assemble_marks hmarks']
  rintro c ⟨⟩
  decide

theorem parseBehind_rooted (hspecial : isSpecial scheme = false)
    (hsegs : ∀ s ∈ segs, IsSegment false s ∧ isDots s = false) (hpresent : segs ≠ [])
    (hmarks : IsMarks false query fragment) :
    parseBehind scheme (behind ⟨scheme, none, .segments segs, query, fragment⟩) =
      .ok ⟨scheme, none, .segments segs, query, fragment⟩ := by
  rcases pathGuard_cases scheme query fragment fun s hs => (hsegs s hs).1
    with ⟨hguard, hhead⟩ | hguard
  · have hmarks' : IsMarks (isSpecial scheme) query fragment := by rwa [hspecial]
    have hends : ∀ c ∈ joined segs, endsPath c = false :=
      endsPath_of_clean (by decide) (clean_joined fun s hs => (hsegs s hs).1)
    have hbehind : behind ⟨scheme, none, .segments segs, query, fragment⟩ =
        '/' :: (joined segs ++ marks query fragment) := by
      rw [behind, hguard, toList_text_segments hpresent]
      rfl
    obtain ⟨hpath, hrest⟩ := takeWhile_path query fragment hends
    rw [hbehind, parseBehind_of_slash hspecial (ne_slash_of_mem_head? hhead), hpath, hrest,
      segmentsOf_joined hpresent hsegs, assemble_marks hmarks']
  · rw [behind, hguard]
    exact parseBehind_guarded hspecial hsegs hpresent hmarks

theorem parseBehind_verbatim {path : String} (hspecial : isSpecial scheme = false)
    (hpath : Clean inVerbatim path.toList) (hrootless : ∀ c ∈ path.toList.head?, c ≠ '/')
    (hmarks : IsMarks false query fragment) :
    parseBehind scheme (behind ⟨scheme, none, .verbatim path, query, fragment⟩) =
      .ok ⟨scheme, none, .verbatim path, query, fragment⟩ := by
  have hmarks' : IsMarks (isSpecial scheme) query fragment := by rwa [hspecial]
  have hcontrols : Clean inControls path.toList :=
    hpath.mono fun c hc => by rw [inVerbatim, hc, Bool.true_or]
  have hbehind : behind ⟨scheme, none, .verbatim path, query, fragment⟩ =
      path.toList ++ marks query fragment := rfl
  obtain ⟨htake, hdrop⟩ := takeWhile_path query fragment
    (endsPath_of_clean (by decide) hpath)
  rw [hbehind, parseBehind_of_rootless hspecial (ne_slash_of_mem_head? hrootless), htake, hdrop,
    ofList_percentEncode hcontrols, assemble_marks hmarks']

/-- **The parts of a file URL** behind its host. -/
theorem assembleFile_text (host : Host) {path : List Char} (hends : ∀ c ∈ path, endsPath c = false)
    (hread : readPath true true path = (segs, false)) (hmarks : IsMarks true query fragment) :
    assembleFile host (path ++ marks query fragment) =
      ⟨"file", some ⟨"", "", host, none⟩, .segments segs, query, fragment⟩ := by
  obtain ⟨htake, hdrop⟩ := takeWhile_path query fragment hends
  have hbreaks : withoutBreaks (marks query fragment) = marks query fragment :=
    withoutBreaks_of_clean ((clean_marks hmarks).controls encoding_inBlanks)
  rw [assembleFile, htake, hdrop, hread, hbreaks]
  exact assemble_marks hmarks

/-- **No host** is taken for a drive. -/
theorem Host.Written.drive?_text {special : Bool} {host : Host} (h : host.Written special) :
    drive? host.text.toList = none := by
  unfold drive?
  split
  case h_1 c mark htext =>
    refine if_neg fun hdrive => ?_
    simp only [Bool.and_eq_true, Bool.or_eq_true, beq_iff_eq] at hdrive
    obtain ⟨halpha, rfl | rfl⟩ := hdrive
    · have hends := h.ends [] (.inl rfl)
      have hplain : splitHost false ([c] ++ [':']) = ([c], [':']) := by
        refine splitHost_of_plain (List.forall_mem_singleton.mpr ⟨?_, ?_⟩) (.inr rfl) <;>
          rintro rfl <;> cases halpha
      rw [htext, List.append_nil] at hends
      cases hends.symm.trans hplain
    · exact h.chars.not_mem (c := '|') (by decide) (by simp [htext])
  case h_2 => rfl

theorem text_bare (host : Host) :
    (Authority.mk "" "" host none).text.toList = host.text.toList := by
  rw [Authority.toList_text]
  simp [Authority.names, Authority.portText]

theorem parseBehind_file {host : Host}
    (hhost : host = .name "" ∨ host.Written true ∧ host ≠ .name "localhost" ∧
      ∀ first ∈ segs.head?, drive? first.toList = none)
    (htop : IsTop segs) (hsegs : ∀ s ∈ segs, IsSegment true s ∧ isDots s = false)
    (hmarks : IsMarks true query fragment) :
    parseBehind "file"
      (behind ⟨"file", some ⟨"", "", host, none⟩, .segments segs, query, fragment⟩) =
      .ok ⟨"file", some ⟨"", "", host, none⟩, .segments segs, query, fragment⟩ := by
  have hne : segs ≠ [] := by
    rcases htop with rfl | ⟨first, rest, rfl, -⟩ <;> exact List.cons_ne_nil _ _
  have hends : ∀ c ∈ joined segs, endsPath c = false :=
    endsPath_of_clean (by decide) (clean_joined fun s hs => (hsegs s hs).1)
  have hends' : ∀ c ∈ '/' :: joined segs, endsPath c = false :=
    List.forall_mem_cons.mpr ⟨by decide, hends⟩
  have hbehind : behind ⟨"file", some ⟨"", "", host, none⟩, .segments segs, query, fragment⟩ =
      '/' :: '/' :: (host.text.toList ++ ('/' :: joined segs ++ marks query fragment)) := by
    rw [behind, authorityText, toList_text_segments hne, text_bare]
    rfl
  have hafter : afterSlashes? ('/' :: '/' :: (host.text.toList ++ ('/' :: joined segs ++
      marks query fragment))) =
        some (host.text.toList ++ ('/' :: joined segs ++ marks query fragment)) := rfl
  have hparse : Url.parseBehind "file"
      (behind ⟨"file", some ⟨"", "", host, none⟩, .segments segs, query, fragment⟩) =
        parseFile ('/' :: '/' :: (host.text.toList ++ ('/' :: joined segs ++
          marks query fragment))) := by
    unfold Url.parseBehind
    rw [if_pos rfl, hbehind]
  rw [hparse, parseFile, hafter]
  dsimp only
  rcases hhost with rfl | ⟨hwritten, hlocal, hdrive⟩
  · have hread := assembleFile_text (.name "") hends' (readPath_slash_joined htop hsegs) hmarks
    exact congrArg Except.ok hread
  · have hread := assembleFile_text host hends (readPath_joined htop hsegs hdrive) hmarks
    have hauthority : Clean inAuthority host.text.toList :=
      hwritten.chars.mono (inAuthority_le (fun _ => inHost_of_inControls) (by decide))
    have hslash : ∀ c ∈ ('/' :: joined segs ++ marks query fragment).head?,
        (!endsAuthority true c) = false := by
      rintro c ⟨⟩
      rfl
    have htake := takeWhile_append_of_stop (endsAuthority_of_clean true hauthority) hslash
    have hdrop := dropWhile_append_of_stop (endsAuthority_of_clean true hauthority) hslash
    have hbreaks : withoutBreaks host.text.toList = host.text.toList :=
      withoutBreaks_of_clean (hauthority.mono fun c hc => by rw [inAuthority, hc, Bool.true_or])
    have hempty : host.text.toList.isEmpty = false := by simpa using hwritten.text_ne_nil
    have hparse : parseDomain host.text.toList = .ok host := hwritten.read
    rw [htake, hdrop, hbreaks, hwritten.drive?_text, hempty, hparse]
    change Except.ok (if host = .name "localhost" then _ else _) = _
    rw [if_neg hlocal]
    exact congrArg Except.ok hread

end Back

/-- **Behind its scheme** a URL is read back. -/
theorem Written.parseBehind {u : Url} (h : u.Written) : parseBehind u.scheme u.behind = .ok u := by
  cases h with
  | authority _ hfile hauthority hsegs hpresent hmarks =>
    exact parseBehind_authority hfile hauthority hsegs hpresent hmarks
  | rooted _ hspecial hsegs hpresent hmarks =>
    exact parseBehind_rooted hspecial hsegs hpresent hmarks
  | verbatim _ hspecial hpath hrootless _ hmarks =>
    exact parseBehind_verbatim hspecial hpath hrootless hmarks
  | file hhost htop hsegs hmarks => exact parseBehind_file hhost htop hsegs hmarks

/-- The characters behind a scheme are those of the parts, and the slashes and dots between them. -/
theorem clean_behind {u : Url} {set : Char → Bool} (hset : Clean set ['/', '.'])
    (hauthority : ∀ a ∈ u.authority, Clean set a.text.toList) (hpath : Clean set u.path.text.toList)
    (hmarks : Clean set (marks u.query u.fragment)) : Clean set u.behind := by
  refine clean_append.mpr ⟨?_, clean_append.mpr ⟨?_, clean_append.mpr ⟨hpath, hmarks⟩⟩⟩
  · cases ha : u.authority with
    | none => exact clean_nil
    | some a =>
      exact clean_cons.mpr ⟨hset '/' (by simp),
        clean_cons.mpr ⟨hset '/' (by simp), hauthority a ha⟩⟩
  · rw [pathGuard]
    split
    · exact hset.of_subset (by decide)
    · exact clean_nil

/-- **Nothing is dropped** from the text of a URL: it has no controls, and ends visibly. -/
theorem Written.clean {u : Url} (h : u.Written) :
    Clean inControls u.behind ∧ ∀ c ∈ u.behind.getLast?, IsVisible c := by
  have hblankless : Clean inBlanks u.behind →
      Clean inControls u.behind ∧ ∀ c ∈ u.behind.getLast?, IsVisible c := fun hclean =>
    ⟨hclean.controls encoding_inBlanks,
      fun c hc => visible_of_clean hclean c (List.mem_of_mem_getLast? hc)⟩
  have hsegments : ∀ {special : Bool} {segs : List String}, (∀ s ∈ segs, IsSegment special s) →
      Clean inBlanks (Path.segments segs).text.toList := fun hsegs =>
    (clean_segments hsegs).mono (inBlanks_le encoding_inPath (by decide))
  cases h with
  | authority _ _ hauthority hsegs _ hmarks =>
    refine hblankless (clean_behind (by decide) ?_ (hsegments fun s hs => (hsegs s hs).1)
      (clean_marks hmarks))
    rintro _ ⟨⟩
    exact hauthority.clean.mono (inBlanks_le encoding_inAuthority (by decide))
  | rooted _ _ hsegs _ hmarks =>
    exact hblankless (clean_behind (by decide) nofun (hsegments fun s hs => (hsegs s hs).1)
      (clean_marks hmarks))
  | file hhost _ hsegs hmarks =>
    refine hblankless (clean_behind (by decide) ?_ (hsegments fun s hs => (hsegs s hs).1)
      (clean_marks hmarks))
    rintro _ ⟨⟩
    rw [text_bare]
    rcases hhost with rfl | ⟨hwritten, -, -⟩
    · exact clean_nil
    · exact hwritten.chars.mono (inBlanks_le encoding_inHost (by decide))
  | @verbatim _ path query fragment _ _ hpath _ hlast hmarks =>
    have hcontrols : Clean inControls path.toList :=
      hpath.mono fun c hc => by rw [inVerbatim, hc, Bool.true_or]
    refine ⟨clean_behind (by decide) nofun hcontrols
      ((clean_marks hmarks).controls encoding_inBlanks), ?_⟩
    intro c (hc : c ∈ (path.toList ++ marks query fragment).getLast?)
    by_cases hnil : marks query fragment = []
    · rw [hnil, List.append_nil] at hc
      obtain ⟨hquery, hfragment⟩ := marks_eq_nil_iff.mp hnil
      exact hlast hquery hfragment c hc
    · rw [List.getLast?_append_of_ne_nil _ hnil] at hc
      exact visible_of_clean (clean_marks hmarks) c (List.mem_of_mem_getLast? hc)

theorem isScheme_file : IsScheme "file" where
  head := by
    rintro c ⟨⟩
    rfl
  present := by decide
  chars := by decide +kernel
  case := by decide +kernel

theorem Written.isScheme {u : Url} (h : u.Written) : IsScheme u.scheme := by
  cases h with
  | authority hscheme => exact hscheme
  | rooted hscheme => exact hscheme
  | verbatim hscheme => exact hscheme
  | file => exact isScheme_file

/-- **Reading a URL back.** -/
theorem Written.parse {u : Url} (h : u.Written) : parse u.text = .ok u := by
  rw [parse_of_text u.toList_text h.isScheme h.clean.1 h.clean.2, h.parseBehind]

end Outbound.Url
