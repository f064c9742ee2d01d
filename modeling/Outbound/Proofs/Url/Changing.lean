import Outbound.Proofs.Url.Shapes

/-!
# Changed URLs

A URL that its text stands for stays one when parts of it are replaced.

* **marks** — another query or fragment can be put behind a path (`Written.setMarks`), and its text
  behind the text that is in front of it (`behind_setMarks`);
* **path** — another path can be put behind an authority (`Written.setPath`);
* **authority** — no slash is in the text of an authority (`Written.not_mem_authority`), and an
  authority without a text has no parts (`Written.eq_noAuthority`).
-/

namespace Outbound.Url

open Outbound.Text

section Changed

variable {u : Url} {a : Authority} {segs segs' : List String} {query fragment : Option String}

theorem Written.isMarks (h : u.Written) : IsMarks (isSpecial u.scheme) u.query u.fragment := by
  cases h with
  | authority _ _ _ _ _ hmarks => exact hmarks
  | rooted _ hspecial _ _ hmarks => rwa [hspecial]
  | verbatim _ hspecial _ _ _ hmarks => rwa [hspecial]
  | file _ _ _ hmarks => exact hmarks

/-- **Another query or fragment** can be put behind a path. -/
theorem Written.setMarks (h : u.Written) (hmarks : IsMarks (isSpecial u.scheme) query fragment)
    (hpresent : query = none → fragment ≠ none) :
    Written { u with query := query, fragment := fragment } := by
  cases h with
  | authority hscheme hfile hauthority hsegs hpath _ =>
    exact .authority hscheme hfile hauthority hsegs hpath hmarks
  | rooted hscheme hspecial hsegs hpath _ =>
    exact .rooted hscheme hspecial hsegs hpath (hspecial ▸ hmarks)
  | verbatim hscheme hspecial hpath hrootless _ _ =>
    exact .verbatim hscheme hspecial hpath hrootless
      (fun hquery hnone => absurd hnone (hpresent hquery)) (hspecial ▸ hmarks)
  | file hhost htop hsegs _ => exact .file hhost htop hsegs hmarks

/-- **Another path** can be put behind an authority. -/
theorem Written.setPath (h : u.Written) (hauthority : u.authority = some a)
    (hpath : u.path = .segments segs)
    (hsegs' : ∀ s ∈ segs', IsSegment (isSpecial u.scheme) s ∧ isDots s = false)
    (hreplace : CanReplace segs' segs) : Written { u with path := .segments segs' } := by
  cases h with
  | rooted => cases hauthority
  | verbatim => cases hauthority
  | authority hscheme hfile hwritten _ _ hmarks =>
    exact .authority hscheme hfile hwritten hsegs' (fun _ => hreplace.ne_nil) hmarks
  | @file _ top _ _ hhost htop _ hmarks =>
    obtain rfl : segs = top := (Path.segments.inj hpath).symm
    refine .file (hhost.imp_right fun ⟨hwritten, hlocal, hdrive⟩ => ?_) (hreplace.isTop htop)
      hsegs' hmarks
    exact ⟨hwritten, hlocal, hreplace.drive?_eq_none hdrive⟩

/-- **With an authority** a path consists of segments. -/
theorem Written.exists_segments (h : u.Written) (hauthority : u.authority = some a) :
    ∃ segs, u.path = .segments segs ∧
      ∀ s ∈ segs, IsSegment (isSpecial u.scheme) s ∧ isDots s = false := by
  cases h with
  | rooted => cases hauthority
  | verbatim => cases hauthority
  | authority _ _ _ hsegs => exact ⟨_, rfl, hsegs⟩
  | file _ _ hsegs => exact ⟨_, rfl, hsegs⟩

/-- **No slash** is in an authority. -/
theorem Written.not_mem_authority (h : u.Written) (hauthority : u.authority = some a) :
    '/' ∉ a.text.toList := by
  cases h with
  | rooted => cases hauthority
  | verbatim => cases hauthority
  | authority _ _ hwritten =>
    obtain rfl := Option.some.inj hauthority
    exact hwritten.clean.not_mem (by decide)
  | file hhost =>
    obtain rfl := Option.some.inj hauthority
    rw [text_bare]
    rcases hhost with rfl | ⟨hwritten, -, -⟩
    · exact List.not_mem_nil
    · exact hwritten.chars.not_mem (by decide)

/-- The authority of a URL that names none. -/
def noAuthority : Authority := ⟨"", "", .name "", none⟩

theorem readHost_nil {special : Bool} {host : Host} (h : readHost special [] = .ok host) :
    host = .name "" := by
  cases special with
  | true => cases parseDomain_nil.symm.trans h
  | false => exact (Except.ok.inj h).symm

/-- **An authority without a text** has no parts. -/
theorem Authority.Written.eq_noAuthority {scheme : String} (h : a.Written scheme)
    (hnil : a.text.toList = []) :
    a = noAuthority := by
  rw [a.toList_text] at hnil
  have hread := h.host.read
  rw [(List.append_eq_nil_iff.mp (List.append_eq_nil_iff.mp hnil).2).1] at hread
  have hhost := readHost_nil hread
  obtain ⟨hname, hpassword, hport⟩ := h.alone hhost
  obtain ⟨username, password, host, port⟩ := a
  subst hname hpassword hport hhost
  rfl

theorem Written.eq_noAuthority (h : u.Written) (hauthority : u.authority = some a)
    (hnil : a.text.toList = []) :
    a = noAuthority ∧ (isSpecial u.scheme = true → u.scheme = "file") := by
  cases h with
  | rooted => cases hauthority
  | verbatim => cases hauthority
  | file hhost =>
    obtain rfl := Option.some.inj hauthority
    rw [text_bare] at hnil
    refine ⟨?_, fun _ => rfl⟩
    rcases hhost with rfl | ⟨hwritten, -, -⟩
    · rfl
    · exact absurd hnil hwritten.text_ne_nil
  | authority _ _ hwritten =>
    obtain rfl := Option.some.inj hauthority
    exact ⟨hwritten.eq_noAuthority hnil,
      fun hspecial => absurd hnil (hwritten.text_ne_nil hspecial)⟩

/-- The text of a URL between its scheme and its query. -/
def front (u : Url) : List Char :=
  authorityText u.authority ++ (u.pathGuard.toList ++ u.path.text.toList)

theorem behind_setMarks (u : Url) (query fragment : Option String) :
    behind { u with query := query, fragment := fragment } = u.front ++ marks query fragment := by
  rw [front, List.append_assoc, List.append_assoc]
  rfl

theorem behind_eq (u : Url) : u.behind = u.front ++ marks u.query u.fragment :=
  u.behind_setMarks _ _

/-- A fragment stands at the end. -/
theorem marks_fragment (query : Option String) (fragment : String) :
    marks query (some fragment) = marks query none ++ '#' :: fragment.toList := by
  rw [marks_eq, marks_eq, List.append_nil]

theorem marks_query (query : String) : marks (some query) none = '?' :: query.toList := by
  rw [marks_eq, List.append_nil]

end Changed

end Outbound.Url
