import Outbound.Proofs.Credential.Completion
import Outbound.Proofs.Url.Changing
import Outbound.Proofs.Url.Reading

/-!
# Token endpoints

The token endpoint is made from the text of a URL, and read from the text that is made. What it is
depends on what the text ends in (`IsEndpoint`).

* **resolving** — an endpoint is read behind the scheme of the URL (`Resolves.of_parseBehind`), and
  is its own endpoint (`Resolves.self`);
* **marks** — a fragment takes the token path (`resolves_fragment`), and a query takes it if there
  is no fragment (`resolves_query`): the path stays as it was;
* **paths** — without either the path takes it, with no authority (`exists_resolves_rooted`,
  `exists_resolves_verbatim`) and with one (`exists_resolves_authority`), unless the authority and
  the path make up the token path together;
* **endpoints** — a URL that was accepted always has an endpoint (`endpoint_completes_text`).
-/

namespace Outbound.IamConfig

open Outbound.Text Outbound.Url

/-- **The path of a token endpoint**, if neither query nor fragment takes the token path. -/
def endpointPath (authority : Option Authority) (path : Path) : List Char :=
  if authority.map Authority.text = some "identity" ∧
      trimmed path.text.toList = "/token".toList then
    "/token".toList
  else completed path.text.toList

/-! ## Resolving -/

/-- **A token endpoint of a URL** is read from the completed text, and has the token path. -/
structure Resolves (u e : Url) : Prop where
  read : Url.parse (endpointText u) = .ok e
  written : e.Written
  token : tokenPath.toList <:+ e.behind

section Resolves

variable {u e : Url}

/-- The completed text of a URL has the scheme of the URL. -/
theorem toList_endpointText_behind (u : Url) :
    (endpointText u).toList = u.scheme.toList ++ ':' :: completed u.behind := by
  rw [toList_endpointText, u.toList_text, completed_append_cons (by decide)]

/-- **The endpoint** is what is read behind the scheme. -/
theorem Resolves.of_parseBehind (hu : u.Written) (he : e.Written)
    (hread : Url.parseBehind u.scheme (completed u.behind) = .ok e)
    (htoken : tokenPath.toList <:+ e.behind) :
    Resolves u e := by
  have hclean : Clean inControls (completed u.behind) := forall_mem_completed (by decide) hu.clean.1
  have hlast : ∀ c ∈ (completed u.behind).getLast?, IsVisible c := by
    rw [getLast?_completed]
    rintro c ⟨⟩
    decide
  refine ⟨?_, he, htoken⟩
  rw [parse_of_text (toList_endpointText_behind u) hu.isScheme hclean hlast, hread]

/-- A URL with the completed text is the endpoint. -/
theorem Resolves.of_behind (hu : u.Written) (he : e.Written) (hscheme : e.scheme = u.scheme)
    (hbehind : e.behind = completed u.behind) : Resolves u e := by
  refine .of_parseBehind hu he ?_ (hbehind ▸ suffix_completed)
  rw [← hscheme, ← hbehind, he.parseBehind]

/-- **An endpoint** is its own endpoint. -/
theorem Resolves.self (h : Resolves u e) : Resolves e e :=
  .of_behind h.written h.written rfl (completed_of_suffix h.token).symm

theorem Resolves.endpoint {c : IamConfig} (h : Resolves c.url e) : c.endpoint = .ok e := by
  rw [IamConfig.endpoint, parseUrl, h.read]

end Resolves

/-! ## Query and fragment -/

section Marks

variable {u : Url} {query fragment : String}

theorem slash_of_mark : '?' ∉ tokenPath.toList ∧ '#' ∉ tokenPath.toList := by
  decide

/-- A clean text is completed to a clean one. -/
theorem clean_completed {set : Char → Bool} (hset : Clean set tokenPath.toList) {s : String}
    (h : Clean set s.toList) : Clean set (String.ofList (completed s.toList)).toList := by
  rw [String.toList_ofList]
  exact forall_mem_completed hset h

/-- **Completed marks** make an endpoint. -/
theorem resolves_setMarks {query fragment : Option String} (h : u.Written)
    (hmarks : IsMarks (isSpecial u.scheme) query fragment)
    (hpresent : query = none → fragment ≠ none)
    (htext : u.front ++ marks query fragment = completed u.behind) :
    Resolves u { u with query := query, fragment := fragment } :=
  .of_behind h (h.setMarks hmarks hpresent) rfl ((u.behind_setMarks query fragment).trans htext)

/-- **With a fragment** it is the fragment that is completed. -/
theorem resolves_fragment (h : u.Written) (hfragment : u.fragment = some fragment) :
    Resolves u { u with fragment := some (String.ofList (completed fragment.toList)) } := by
  refine resolves_setMarks h ⟨h.isMarks.query, ?_⟩ nofun ?_
  · rintro _ ⟨⟩
    exact clean_completed (by decide) (h.isMarks.fragment fragment hfragment)
  · rw [u.behind_eq, hfragment, marks_fragment, marks_fragment, String.toList_ofList,
      ← List.append_assoc, ← List.append_assoc, completed_append_cons slash_of_mark.2]

/-- **With a query alone** it is the query that is completed. -/
theorem resolves_query (h : u.Written) (hfragment : u.fragment = none)
    (hquery : u.query = some query) :
    Resolves u { u with query := some (String.ofList (completed query.toList)) } := by
  have hresolves : Resolves u { u with
      query := some (String.ofList (completed query.toList)), fragment := none } := by
    refine resolves_setMarks h ⟨?_, nofun⟩ nofun ?_
    · rintro _ ⟨⟩
      have htoken : ∀ special, Clean (inQuery special) tokenPath.toList := by decide
      exact clean_completed (htoken _) (h.isMarks.query query hquery)
    · rw [u.behind_eq, hquery, hfragment, marks_query, marks_query, String.toList_ofList,
        completed_append_cons slash_of_mark.1]
  rwa [← hfragment] at hresolves

end Marks

/-! ## Paths -/

section Paths

variable {scheme : String} {segs segs' : List String} {query fragment : Option String}

/-- **No guard** is needed that was not there. -/
theorem pathGuard_of_canReplace (hreplace : CanReplace segs' segs)
    (hguard : pathGuard ⟨scheme, none, .segments segs, query, fragment⟩ = "") :
    pathGuard ⟨scheme, none, .segments segs', query, fragment⟩ = "" := by
  rcases hreplace with ⟨first, rest', rfl, hne, -⟩ | ⟨first, rest, rest', rfl, rfl, hempty⟩
  · exact pathGuard_of_ne hne
  · by_cases hfirst : first = ""
    · obtain ⟨next, rest, rfl⟩ := List.exists_cons_of_ne_nil (hempty hfirst)
      subst hfirst
      change "/." = "" at hguard
      exact absurd hguard (by decide)
    · exact pathGuard_of_ne hfirst

/-- The text behind the scheme of a URL without authority, query and fragment. -/
theorem behind_rooted (scheme : String) (segs : List String) :
    behind ⟨scheme, none, .segments segs, none, none⟩ =
      (pathGuard ⟨scheme, none, .segments segs, none, none⟩).toList ++ pathText segs := by
  rw [behind, marks_eq, List.append_nil, List.append_nil]
  rfl

/-- **Without an authority** the path is completed. -/
theorem exists_resolves_rooted (h : Written ⟨scheme, none, .segments segs, none, none⟩) :
    ∃ segs', pathText segs' = completed (pathText segs) ∧
      Resolves ⟨scheme, none, .segments segs, none, none⟩
        ⟨scheme, none, .segments segs', none, none⟩ := by
  have hwritten := h
  cases h with
  | rooted hscheme hspecial hsegs hpresent hmarks =>
    obtain ⟨segs', htext, hsegs', hreplace⟩ := exists_segments_completed hsegs
    have hwritten' : Written ⟨scheme, none, .segments segs', none, none⟩ :=
      .rooted hscheme hspecial hsegs' hreplace.ne_nil hmarks
    have htoken : tokenPath.toList <:+ behind ⟨scheme, none, .segments segs', none, none⟩ := by
      rw [behind_rooted, htext]
      exact suffix_completed.trans (List.suffix_append _ _)
    refine ⟨segs', htext, ?_⟩
    rcases pathGuard_cases scheme none none fun s hs => (hsegs s hs).1
      with ⟨hguard, -⟩ | hguard
    · refine .of_behind hwritten hwritten' rfl ?_
      rw [behind_rooted, behind_rooted, hguard, pathGuard_of_canReplace hreplace hguard, htext]
      rfl
    · have hguarded := parseBehind_guarded hspecial hsegs' hreplace.ne_nil hmarks
      have hcompleted : completed ("/.".toList ++ pathText segs) =
          "/.".toList ++ pathText segs' := by
        rw [htext]
        exact completed_append_cons (by decide) ['/'] (pathText segs)
      refine .of_parseBehind hwritten hwritten' ?_ htoken
      rw [behind_rooted, hguard, hcompleted]
      rwa [marks_eq, List.append_nil, List.append_nil] at hguarded

/-- **A path that is not rooted** is completed as it is, and roots if it is empty. -/
theorem exists_resolves_verbatim {text : String}
    (h : Written ⟨scheme, none, .verbatim text, none, none⟩) :
    ∃ path : Path, path.text.toList = completed text.toList ∧
      Resolves ⟨scheme, none, .verbatim text, none, none⟩ ⟨scheme, none, path, none, none⟩ := by
  have hwritten := h
  cases h with
  | verbatim hscheme hspecial htext hrootless _ hmarks =>
    have hbehind : ∀ path : String,
        behind ⟨scheme, none, .verbatim path, none, none⟩ = path.toList := by
      intro path
      rw [behind, marks_eq, List.append_nil, List.append_nil]
      rfl
    by_cases hempty : text = ""
    · subst hempty
      have htoken : pathText ["identity", "token"] = completed "".toList := by decide
      have hguard : pathGuard ⟨scheme, none, .segments ["identity", "token"], none, none⟩ = "" :=
        pathGuard_of_ne (by decide)
      refine ⟨.segments ["identity", "token"], htoken, .of_behind hwritten ?_ rfl ?_⟩
      · exact .rooted hscheme hspecial (isSegment_of_mem_token false) (List.cons_ne_nil _ _) hmarks
      · rw [behind_rooted, hguard, htoken, hbehind]
        rfl
    · obtain ⟨c, cs, hcons⟩ := List.exists_cons_of_ne_nil (mt String.toList_eq_nil_iff.mp hempty)
      refine ⟨.verbatim (String.ofList (completed text.toList)), String.toList_ofList,
        .of_behind hwritten (.verbatim hscheme hspecial ?_ ?_ ?_ hmarks) rfl ?_⟩
      · exact clean_completed (by decide) htext
      · rw [hcons] at hrootless
        rw [String.toList_ofList, hcons, head?_completed (hrootless c rfl)]
        exact hrootless
      · intro _ _
        rw [String.toList_ofList, getLast?_completed]
        rintro c ⟨⟩
        decide
      · rw [hbehind, hbehind, String.toList_ofList]

/-- The text behind the scheme of a URL with an authority, and without query and fragment. -/
theorem behind_authority (scheme : String) (a : Authority) (segs : List String) :
    behind ⟨scheme, some a, .segments segs, none, none⟩ =
      '/' :: '/' :: (a.text.toList ++ pathText segs) := by
  rw [behind, marks_eq, List.append_nil, List.append_nil]
  rfl

/-- **Behind an authority** the path is completed if the text is. -/
theorem resolves_setPath {a : Authority} (h : Written ⟨scheme, some a, .segments segs, none, none⟩)
    (hsegs' : ∀ s ∈ segs', IsSegment (isSpecial scheme) s ∧ isDots s = false)
    (hreplace : CanReplace segs' segs) (htext : '/' :: '/' :: (a.text.toList ++ pathText segs') =
      completed ('/' :: '/' :: (a.text.toList ++ pathText segs))) :
    Resolves ⟨scheme, some a, .segments segs, none, none⟩
      ⟨scheme, some a, .segments segs', none, none⟩ := by
  refine .of_behind h (h.setPath rfl rfl hsegs' hreplace) rfl ?_
  rw [behind_authority, behind_authority, htext]

/-- **Without a text in front** only the token path is left, behind no authority or behind an empty
one. -/
theorem exists_resolves_bare (h : Written ⟨scheme, some noAuthority, .segments segs, none, none⟩)
    (hfile : isSpecial scheme = true → scheme = "file")
    (hsegs : ∀ s ∈ segs, IsSegment (isSpecial scheme) s) (hpath : trimmed (pathText segs) = []) :
    ∃ authority, authority.getD noAuthority = noAuthority ∧
      Resolves ⟨scheme, some noAuthority, .segments segs, none, none⟩
        ⟨scheme, authority, .segments ["identity", "token"], none, none⟩ := by
  have hcompleted : completed (behind ⟨scheme, some noAuthority, .segments segs, none, none⟩) =
      tokenPath.toList := by
    rw [behind_authority]
    exact completed_bare hsegs hpath
  have hbehind : ∀ authority, tokenPath.toList <:+
      behind ⟨scheme, authority, .segments ["identity", "token"], none, none⟩ := by
    intro authority
    rw [behind_eq, front, marks_eq, List.append_nil, List.append_nil, ← pathText_token,
      ← List.append_assoc]
    exact List.suffix_append _ _
  by_cases hspecial : isSpecial scheme = true
  · obtain rfl := hfile hspecial
    have hread : parseBehind "file" tokenPath.toList =
        .ok ⟨"file", some noAuthority, .segments ["identity", "token"], none, none⟩ :=
      eq_ok_of_toOption (by decide +kernel)
    have hwritten : Written
        ⟨"file", some noAuthority, .segments ["identity", "token"], none, none⟩ :=
      h.setPath rfl rfl (isSegment_of_mem_token true) (canReplace_token segs)
    exact ⟨some noAuthority, rfl, .of_parseBehind h hwritten (hcompleted ▸ hread) (hbehind _)⟩
  · have hwritten : Written ⟨scheme, none, .segments ["identity", "token"], none, none⟩ :=
      .rooted h.isScheme (Bool.eq_false_iff.mpr hspecial) (isSegment_of_mem_token false)
        (List.cons_ne_nil _ _)
        (Bool.eq_false_iff.mpr hspecial ▸ h.isMarks)
    refine ⟨none, rfl, .of_behind h hwritten rfl ?_⟩
    rw [hcompleted, behind_rooted, pathGuard_of_ne (by decide), pathText_token]
    rfl

/-- **Behind an authority** it is the path that is completed, unless both make up the token path. -/
theorem exists_resolves_authority {a : Authority}
    (h : Written ⟨scheme, some a, .segments segs, none, none⟩) :
    ∃ authority segs', authority.getD noAuthority = a ∧
      pathText segs' = endpointPath (some a) (.segments segs) ∧
      Resolves ⟨scheme, some a, .segments segs, none, none⟩
        ⟨scheme, authority, .segments segs', none, none⟩ := by
  obtain ⟨_, heq, hsegments⟩ := h.exists_segments rfl
  obtain rfl := Path.segments.inj heq
  have hsegs : ∀ s ∈ segs, IsSegment (isSpecial scheme) s := fun s hs => (hsegments s hs).1
  by_cases hjoint : a.text = "identity" ∧ trimmed (pathText segs) = "/token".toList
  · have htoken : pathText ["token"] = "/token".toList := by decide
    refine ⟨some a, ["token"], rfl, ?_, resolves_setPath h ?_ ?_ ?_⟩
    · rw [endpointPath, if_pos ⟨congrArg some hjoint.1, hjoint.2⟩, htoken]
    · exact fun s hs => isSegment_of_mem_token _ s (List.mem_cons_of_mem _ hs)
    · exact .inl ⟨_, _, rfl, by decide, by decide⟩
    · rw [hjoint.1, completed_authority_token hsegs hjoint.2, htoken]
      decide
  · have hpath : endpointPath (some a) (.segments segs) = completed (pathText segs) := by
      rw [endpointPath, if_neg fun h => hjoint ⟨Option.some.inj h.1, h.2⟩]
    rw [hpath]
    by_cases hbare : a.text.toList = [] ∧ trimmed (pathText segs) = []
    · obtain ⟨hnil, htrimmed⟩ := hbare
      obtain ⟨rfl, hfile⟩ := h.eq_noAuthority rfl hnil
      obtain ⟨authority, hauthority, hresolves⟩ := exists_resolves_bare h hfile hsegs htrimmed
      refine ⟨authority, ["identity", "token"], hauthority, ?_, hresolves⟩
      rw [completed, htrimmed]
      decide
    · obtain ⟨segs', htext, hsegs', hreplace⟩ := exists_segments_completed hsegments
      refine ⟨some a, segs', rfl, htext, resolves_setPath h hsegs' hreplace ?_⟩
      have hpresent : a.text.toList = [] → trimmed (pathText segs) ≠ [] :=
        fun hnil htrimmed => hbare ⟨hnil, htrimmed⟩
      rw [htext, completed_authority hsegs (h.not_mem_authority rfl) hpresent]
      rintro ⟨hname, htrimmed⟩
      exact hjoint ⟨String.toList_inj.mp hname, htrimmed⟩

end Paths

/-! ## Endpoints -/

/-- **What a token endpoint is.** Of a URL with a fragment it is the fragment that is completed, of
one with a query alone it is the query, and only of one with neither it is the path. -/
structure IsEndpoint (u e : Url) : Prop where
  scheme : e.scheme = u.scheme
  authority : e.authority.getD noAuthority = u.authority.getD noAuthority
  fragment : ∀ fragment ∈ u.fragment,
    e = { u with fragment := some (String.ofList (completed fragment.toList)) }
  query : u.fragment = none → ∀ query ∈ u.query,
    e = { u with query := some (String.ofList (completed query.toList)) }
  path : u.fragment = none → u.query = none →
    e.fragment = none ∧ e.query = none ∧ e.path.text.toList = endpointPath u.authority u.path

/-- **A URL with neither query nor fragment.** -/
theorem exists_isEndpoint_of_path {scheme : String} {authority : Option Authority} {path : Path}
    (h : Written ⟨scheme, authority, path, none, none⟩) :
    ∃ e, Resolves ⟨scheme, authority, path, none, none⟩ e ∧
      IsEndpoint ⟨scheme, authority, path, none, none⟩ e := by
  have hcompleted : endpointPath none path = completed path.text.toList :=
    if_neg fun h => nomatch h.1
  cases authority with
  | none =>
    cases path with
    | segments segs =>
      obtain ⟨segs', htext, hresolves⟩ := exists_resolves_rooted h
      exact ⟨_, hresolves, rfl, rfl, nofun, nofun,
        fun _ _ => ⟨rfl, rfl, htext.trans hcompleted.symm⟩⟩
    | verbatim text =>
      obtain ⟨path', htext, hresolves⟩ := exists_resolves_verbatim h
      exact ⟨_, hresolves, rfl, rfl, nofun, nofun,
        fun _ _ => ⟨rfl, rfl, htext.trans hcompleted.symm⟩⟩
  | some a =>
    obtain ⟨segs, rfl, -⟩ := h.exists_segments rfl
    obtain ⟨authority, segs', hauthority, htext, hresolves⟩ := exists_resolves_authority h
    exact ⟨_, hresolves, rfl, hauthority, nofun, nofun, fun _ _ => ⟨rfl, rfl, htext⟩⟩

theorem exists_isEndpoint {u : Url} (h : u.Written) : ∃ e, Resolves u e ∧ IsEndpoint u e := by
  obtain ⟨scheme, authority, path, query, fragment⟩ := u
  cases fragment with
  | some fragment =>
    refine ⟨_, resolves_fragment h rfl, rfl, rfl, ?_, nofun, nofun⟩
    rintro _ ⟨⟩
    rfl
  | none =>
    cases query with
    | some query =>
      refine ⟨_, resolves_query h rfl rfl, rfl, rfl, nofun, fun _ => ?_, nofun⟩
      rintro _ ⟨⟩
      rfl
    | none => exact exists_isEndpoint_of_path h

/-- **The token endpoint** of a URL that was accepted and is legible. It is found, its scheme and
authority are those of the URL, and it is its own endpoint. -/
theorem endpoint_completes_text {s : String} {c : IamConfig} (hurl : Url.parse s = .ok c.url)
    (hlegible : c.url.Legible) :
    ∃ e, c.endpoint = .ok e ∧ { c with url := e }.endpoint = .ok e ∧ IsEndpoint c.url e := by
  obtain ⟨e, hresolves, hendpoint⟩ := exists_isEndpoint (written_of_parse hurl hlegible)
  exact ⟨e, hresolves.endpoint, hresolves.self.endpoint, hendpoint⟩

/-- **All parts of an authority**, and slashes at the end of the path. -/
theorem endpoint_completes_text_of_crowded :
    ∃ c : IamConfig, Url.parse "https://me:pw@iam.example.com:8443/a//" = .ok c.url ∧
      c.endpoint = .ok ⟨"https", some ⟨"me", "pw", .name "iam.example.com", some 8443⟩,
        .segments ["a", "identity", "token"], none, none⟩ ∧
      ∃ e, c.endpoint = .ok e ∧ { c with url := e }.endpoint = .ok e ∧ IsEndpoint c.url e := by
  have hurl : Url.parse "https://me:pw@iam.example.com:8443/a//" = .ok ⟨"https",
      some ⟨"me", "pw", .name "iam.example.com", some 8443⟩, .segments ["a", "", ""], none, none⟩ :=
    eq_ok_of_toOption (by decide +kernel)
  refine ⟨⟨⟨"key"⟩, _, none, none, none⟩, hurl, eq_ok_of_toOption (by decide +kernel),
    endpoint_completes_text hurl (legible_of_plain (by decide) ?_)⟩
  rintro _ ⟨⟩ _ ⟨⟩
  exact ⟨by decide, by decide, by decide +kernel⟩

/-- **A query takes the token path.** The path stays the one that was configured. -/
theorem query_takes_token_path :
    ∃ c e, build (some ⟨"key"⟩) (some "https://iam.example.com/?x=1") none none none = .ok c ∧
      c.endpoint = .ok e ∧ c.url.path = .segments [""] ∧ e.path = .segments [""] ∧
      c.url.query = some "x=1" ∧ e.query = some "x=1/identity/token" := by
  refine ⟨⟨⟨"key"⟩,
    ⟨"https", some ⟨"", "", .name "iam.example.com", none⟩, .segments [""], some "x=1", none⟩,
    none, none, none⟩, ⟨"https", some ⟨"", "", .name "iam.example.com", none⟩, .segments [""],
    some "x=1/identity/token", none⟩, ?_, ?_, rfl, rfl, rfl, rfl⟩
  · exact eq_ok_of_toOption (by decide +kernel)
  · exact eq_ok_of_toOption (by decide +kernel)

/-- A host that makes up the token path with its path is not given another one. -/
example :
    (Url.parse "https://identity/token/").toOption.map endpointText =
      some "https://identity/token" := by
  decide +kernel

end Outbound.IamConfig
