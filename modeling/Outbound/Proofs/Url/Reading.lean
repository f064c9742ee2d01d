import Outbound.Proofs.Url.Shapes

/-!
# URLs that were read

A URL that was read is one that its text stands for (`written_of_parse`), if it is legible: what was
written in several ways is then written in one.

* **ends** — what is read has a scheme and ends visibly, unless it is a file (`of_parse`);
* **legible** — names that are plain are read in one way only (`legible_of_plain`), and so is every
  URL whose scheme is not special;
* **shapes** — each way of reading makes a URL of one shape (`written_of_parseWithAuthority`,
  `written_of_rooted`, `written_of_verbatim`, `written_of_parseFile`).
-/

namespace Outbound.Url

open Outbound.Text

/-! ## The ends of a text -/

theorem visible_getLast?_trimControls (cs : List Char) :
    ∀ c ∈ (trimControls cs).getLast?, IsVisible c := by
  intro c hc
  obtain ⟨hne, rfl⟩ := List.mem_getLast?_eq_getLast hc
  have hnot := List.rdropWhile_last_not (fun c : Char => decide (c.toNat ≤ 0x20))
    (cs.dropWhile fun c : Char => decide (c.toNat ≤ 0x20)) hne
  exact Nat.lt_of_not_le fun hle => hnot (decide_eq_true hle)

theorem visible_getLast?_withoutBreaks {cs : List Char} (h : ∀ c ∈ cs.getLast?, IsVisible c) :
    ∀ c ∈ (withoutBreaks cs).getLast?, IsVisible c := by
  rcases List.eq_nil_or_concat' cs with rfl | ⟨init, last, rfl⟩
  · exact nofun
  · rw [List.getLast?_concat] at h
    have hlast : IsVisible last := h last rfl
    have hkept : isBreak last = false := by
      rw [← Bool.not_eq_true]
      simp only [isBreak, Bool.or_eq_true, beq_iff_eq]
      rintro ((rfl | rfl) | rfl) <;> exact absurd hlast (by decide)
    rw [withoutBreaks, List.filter_append, List.filter_cons_of_pos (by simpa using hkept),
      List.filter_nil, List.getLast?_concat]
    exact h

/-- **Whatever is read** has a scheme, and ends visibly unless it is a file. -/
theorem of_parse {s : String} {u : Url} (h : parse s = .ok u) :
    ∃ scheme rest, IsScheme scheme ∧ parseBehind scheme rest = .ok u ∧
      (scheme ≠ "file" → ∀ c ∈ rest.getLast?, IsVisible c) := by
  rw [parse_eq] at h
  split at h
  case h_1 => cases h
  case h_2 scheme rest hsplit =>
    obtain ⟨hscheme, name, hname, -⟩ := of_splitScheme hsplit
    refine ⟨scheme, _, hscheme, h, fun hfile c hc => ?_⟩
    rw [if_neg hfile] at hc
    refine visible_getLast?_withoutBreaks (visible_getLast?_trimControls s.toList) c ?_
    obtain ⟨init, rfl⟩ := List.getLast?_eq_some_iff.mp hc
    rw [hname, ← List.cons_append, ← List.append_assoc]
    exact List.getLast?_concat

/-! ## Whatever was read -/

/-- **URLs that are read in one way only.** An international name may be too long to be read again
in ASCII, and in a file URL what stands behind a drive is not resolved, and a drive that comes to
the front late does not take the place of the host. -/
structure Legible (u : Url) : Prop where
  name : isSpecial u.scheme = true → ∀ a ∈ u.authority, ∀ name, a.host = .name name → name ≠ "" →
    Domain.ascii? isForbiddenInDomain name.toList = some name.toList
  dots : u.scheme = "file" → ∀ segs, u.path = .segments segs → ∀ s ∈ segs, isDots s = false
  drive : u.scheme = "file" → ∀ a ∈ u.authority, a.host ≠ .name "" →
    ∀ segs, u.path = .segments segs → ∀ first ∈ segs.head?, drive? first.toList = none

/-- **Plain names** are read in one way only. -/
theorem legible_of_plain {u : Url} (hfile : u.scheme ≠ "file")
    (h : ∀ a ∈ u.authority, ∀ name, a.host = .name name →
      Domain.Plain isForbiddenInDomain name.toList) :
    u.Legible where
  name _ a ha name hname _ := Domain.ascii?_of_plain (h a ha name hname)
  dots hscheme := absurd hscheme hfile
  drive hscheme := absurd hscheme hfile

/-- **What is put together** has its query and its fragment from behind the path. -/
theorem exists_assemble_eq (scheme : String) (authority : Option Authority) (path : Path)
    (rest : List Char) :
    ∃ query fragment,
      assemble scheme authority path rest = ⟨scheme, authority, path, query, fragment⟩ ∧
      queryAndFragment (isSpecial scheme) rest = (query, fragment) ∧
      IsMarks (isSpecial scheme) query fragment :=
  ⟨_, _, rfl, rfl, isMarks_of_queryAndFragment rfl⟩

section Read

variable {scheme : String} {cs : List Char} {u : Url}

theorem written_of_parseWithAuthority (hscheme : IsScheme scheme) (hfile : scheme ≠ "file")
    (h : parseWithAuthority scheme cs = .ok u) (hlegible : u.Legible) : u.Written := by
  unfold parseWithAuthority at h
  obtain ⟨⟨a, rest⟩, hauthority, h⟩ := bind_eq_ok.mp h
  obtain rfl := Except.ok.inj h
  obtain ⟨query, fragment, hu, -, hmarks⟩ := exists_assemble_eq scheme (some a)
    (.segments (if (rest.takeWhile (!endsPath ·)).isEmpty && !isSpecial scheme then []
      else segmentsOf (isSpecial scheme)
        (dropSlash (isSpecial scheme) (rest.takeWhile (!endsPath ·)))))
    (rest.dropWhile (!endsPath ·))
  rw [hu] at hlegible ⊢
  refine .authority hscheme hfile ?_ ?_ ?_ hmarks
  · exact written_of_parseAuthority hauthority fun hspecial => hlegible.name hspecial a rfl
  · split
    · exact nofun
    · exact fun s => of_mem_segmentsOf
  · intro hspecial
    rw [hspecial, Bool.not_true, Bool.and_false, if_neg Bool.false_ne_true]
    exact segmentsOf_ne_nil _ _

theorem written_of_assembleFile {host : Host}
    (hhost : host = .name "" ∨ (∃ text, parseDomain text = .ok host) ∧ host ≠ .name "localhost")
    (hlegible : (assembleFile host cs).Legible) : (assembleFile host cs).Written := by
  unfold assembleFile at hlegible ⊢
  have htop := isTop_readPath true (cs.takeWhile (!endsPath ·))
  have hsegments : ∀ s ∈ (readPath true true (cs.takeWhile (!endsPath ·))).1, IsSegment true s :=
    fun s => isSegment_of_mem_readPath
  generalize readPath true true (cs.takeWhile (!endsPath ·)) = path at hlegible htop hsegments ⊢
  obtain ⟨segs, onDrive⟩ := path
  obtain ⟨query, fragment, hu, -, hmarks⟩ := exists_assemble_eq "file"
    (some ⟨"", "", if onDrive then .name "" else host, none⟩) (.segments segs)
    (withoutBreaks (cs.dropWhile (!endsPath ·)))
  dsimp only at hlegible htop hsegments ⊢
  rw [hu] at hlegible ⊢
  refine .file ?_ htop (fun s hs => ⟨hsegments s hs, hlegible.dots rfl segs rfl s hs⟩) hmarks
  have hname := hlegible.name rfl _ rfl
  have hdrive := hlegible.drive rfl _ rfl
  cases onDrive with
  | true => exact .inl rfl
  | false =>
    refine hhost.imp_right fun ⟨⟨text, hread⟩, hlocal⟩ => ?_
    have hdomain : readHost true text = .ok host := hread
    have hwritten : host.Written true := written_of_readHost hdomain fun _ => hname
    refine ⟨hwritten, hlocal, hdrive ?_ segs rfl⟩
    rintro rfl
    exact hwritten.text_ne_nil rfl

theorem written_of_parseFile (h : parseFile cs = .ok u) (hlegible : u.Legible) : u.Written := by
  unfold parseFile at h
  split at h
  case h_1 =>
    obtain rfl := Except.ok.inj h
    exact written_of_assembleFile (.inl rfl) hlegible
  case h_2 =>
    dsimp only at h
    split at h
    case isTrue =>
      obtain rfl := Except.ok.inj h
      exact written_of_assembleFile (.inl rfl) hlegible
    case isFalse =>
      split at h
      case isTrue =>
        obtain rfl := Except.ok.inj h
        exact written_of_assembleFile (.inl rfl) hlegible
      case isFalse =>
        obtain ⟨host, hhost, h⟩ := bind_eq_ok.mp h
        obtain rfl := Except.ok.inj h
        split at hlegible
        case isTrue hlocal =>
          rw [if_pos hlocal]
          exact written_of_assembleFile (.inl rfl) hlegible
        case isFalse hlocal =>
          rw [if_neg hlocal]
          exact written_of_assembleFile (.inr ⟨⟨_, hhost⟩, hlocal⟩) hlegible

theorem written_of_rooted (hscheme : IsScheme scheme) (hspecial : isSpecial scheme = false)
    (path : List Char) (rest : List Char) :
    (assemble scheme none (.segments (segmentsOf false path)) rest).Written := by
  obtain ⟨query, fragment, hu, -, hmarks⟩ :=
    exists_assemble_eq scheme none (.segments (segmentsOf false path)) rest
  rw [hu]
  rw [hspecial] at hmarks
  exact .rooted hscheme hspecial (fun s => of_mem_segmentsOf) (segmentsOf_ne_nil _ _) hmarks

theorem written_of_verbatim (hscheme : IsScheme scheme) (hspecial : isSpecial scheme = false)
    (hrootless : ∀ c ∈ cs.head?, c ≠ '/') (hlast : ∀ c ∈ cs.getLast?, IsVisible c) :
    (assemble scheme none
      (.verbatim (String.ofList (percentEncode inControls (cs.takeWhile (!endsPath ·)))))
      (cs.dropWhile (!endsPath ·))).Written := by
  obtain ⟨query, fragment, hu, hread, hmarks⟩ := exists_assemble_eq scheme none
    (.verbatim (String.ofList (percentEncode inControls (cs.takeWhile (!endsPath ·)))))
    (cs.dropWhile (!endsPath ·))
  rw [hu]
  rw [hspecial] at hmarks
  refine .verbatim hscheme hspecial ?_ ?_ ?_ hmarks
  · rw [String.toList_ofList]
    refine forall_mem_percentEncode (by decide) fun c hc hascii hcontrol => ⟨hascii, ?_⟩
    have hpath := List.mem_takeWhile_imp hc
    rw [inVerbatim, hcontrol, Bool.false_or]
    simpa using hpath
  · rw [String.toList_ofList]
    intro c hc
    rcases of_mem_head?_percentEncode hc with hescape | hhead
    · rintro rfl
      exact absurd hescape (by decide)
    · rw [List.head?_takeWhile] at hhead
      exact hrootless c (Option.mem_filter_iff.mp hhead).1
  · rintro rfl rfl c hc
    have hall : cs.takeWhile (!endsPath ·) = cs := by
      have happend := List.takeWhile_append_dropWhile (p := (!endsPath ·)) (l := cs)
      rwa [dropWhile_eq_nil_of_queryAndFragment hread, List.append_nil] at happend
    rw [String.toList_ofList, hall] at hc
    rcases of_mem_getLast?_percentEncode hc with hescape | hc
    · have hvisible : ∀ c ∈ escapes, IsVisible c := by decide
      exact hvisible c hescape
    · exact hlast c hc

end Read

/-- **What was read** is what its text stands for, if it is legible. -/
theorem written_of_parse {s : String} {u : Url} (h : parse s = .ok u) (hlegible : u.Legible) :
    u.Written := by
  obtain ⟨scheme, rest, hscheme, h, hvisible⟩ := of_parse h
  unfold Url.parseBehind at h
  split at h
  case isTrue => exact written_of_parseFile h hlegible
  case isFalse hfile =>
    split at h
    case isTrue => exact written_of_parseWithAuthority hscheme hfile h hlegible
    case isFalse hspecial =>
      split at h
      case h_1 => exact written_of_parseWithAuthority hscheme hfile h hlegible
      case h_2 =>
        obtain rfl := Except.ok.inj h
        exact written_of_rooted hscheme (Bool.eq_false_iff.mpr hspecial) _ _
      case h_3 _ hrootless =>
        obtain rfl := Except.ok.inj h
        refine written_of_verbatim hscheme (Bool.eq_false_iff.mpr hspecial) (fun c hc => ?_)
          (hvisible hfile)
        rintro rfl
        obtain ⟨tail, rfl⟩ := List.head?_eq_some_iff.mp hc
        exact hrootless tail rfl

/-- **The text of a URL** that was read is read as this URL, if it is legible. -/
theorem parse_text {s : String} {u : Url} (h : parse s = .ok u) (hlegible : u.Legible) :
    parse u.text = .ok u :=
  (written_of_parse h hlegible).parse

end Outbound.Url
