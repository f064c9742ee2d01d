import Outbound.Proofs.Authenticator.Writing
import Outbound.Proofs.Credential.Pair

/-!
# What authenticating leaves alone

A credential has one header to write. Whether it does, and what it writes, is settled before the
request is looked at; and either it is written, in the place of all that stood there, or nothing is
touched.

* **rotation** — a token of the caller is the last one that was accepted (`AccessToken.rotated_eq`);
* **frame** — `Request.Receives` is what becomes of a request for which a value is due: apart from
  its authorization it is as it was;
* **due** — `AuthConfig.Due` says what a credential of a configuration has to write, after any
  rotations and in any session;
* **the theorem** — `AuthConfig.receives_what_is_due`: either every request receives what is due, or
  nothing is due and none is touched.
-/

namespace Outbound

open Outbound.Text

/-! ## Rotation -/

namespace AccessToken

variable (current : AccessToken)

/-- Whether a text is accepted in the place of a token. -/
def accepts (text : String) : Bool := (current.rotate text).1 = .ok ()

/-- The token after rotations in turn. -/
def rotated (texts : List String) : AccessToken :=
  texts.foldl (fun token text => (token.rotate text).2) current

/-- **Rotating**: anything but the empty text is accepted, which leaves the token as it is. -/
theorem rotate_eq (text : String) :
    current.rotate text = if text = "" then
      (.error (.missingProperty AuthType.bearerToken.label "token"), current)
    else (.ok (), .supplied text) := by
  by_cases h : text = ""
  · rw [h, if_pos rfl]
    rfl
  · have hempty : text.isEmpty = false := by simpa using h
    rw [if_neg h, rotate, BearerConfig.build, BearerConfig.validate]
    simp only [hempty]
    rfl

theorem accepts_iff {text : String} : current.accepts text ↔ text ≠ "" := by
  rw [accepts, rotate_eq]
  by_cases h : text = "" <;> simp [h]

/-- **After rotations** the token is the last one that was accepted, or else the one from before. -/
theorem rotated_eq (texts : List String) :
    current.rotated texts =
      ((texts.filter current.accepts).getLast?.map AccessToken.supplied).getD current := by
  induction texts using List.reverseRecOn with
  | nil => rfl
  | append_singleton texts text ih =>
    rw [rotated, List.foldl_append] at *
    rw [List.foldl_cons, List.foldl_nil, rotate_eq, List.filter_append]
    by_cases h : text = ""
    · have hrefused : [text].filter current.accepts = [] :=
        List.filter_cons_of_neg (mt current.accepts_iff.mp (not_not_intro h))
      rw [if_pos h, hrefused, List.append_nil]
      exact ih
    · have haccepted : [text].filter current.accepts = [text] :=
        List.filter_cons_of_pos (current.accepts_iff.mpr h)
      rw [if_neg h, haccepted, List.getLast?_concat]
      rfl

/-- Which of them that is depends on the texts alone. -/
theorem rotated_supplied (first : String) (texts : List String) :
    (supplied first).rotated texts =
      .supplied ((texts.filter (supplied first).accepts).getLast?.getD first) := by
  rw [rotated_eq]
  cases (texts.filter (supplied first).accepts).getLast? <;> rfl

end AccessToken

/-- A credential after rotations in turn. Only a token of the caller can be rotated. -/
def Credential.rotated (texts : List String) : Credential → Credential
  | .bearer token => .bearer (token.rotated texts)
  | c => c

/-! ## The frame -/

/-- A request without regard to its authorization. -/
def Request.anonymous (r : Request) : Request :=
  { r with headers := r.headers.erase .authorization }

/-- **Inserting a header** touches no other one. -/
theorem Headers.erase_insert_self (h : Headers) (name : HeaderName) (v : HeaderValue) :
    (h.insert name v).erase name = h.erase name := by
  have hentries (es : List (HeaderName × HeaderValue)) :
      (setEntry name v es).filter (·.1 ≠ name) = es.filter (·.1 ≠ name) := by
    induction es with
    | nil => simp [setEntry]
    | cons e es ih =>
      by_cases he : e.1 = name
      · simp [setEntry, he, List.filter_filter]
      · rw [setEntry, if_neg he, List.filter_cons, List.filter_cons, ih]
  exact congrArg Headers.mk (hentries h.entries)

/-- **Receiving** a value: it is the only authorization, and the rest is as it was. If there is none
to receive, all is as it was. -/
def Request.Receives (r : Request) : Option HeaderValue → Request → Prop
  | some v, r' => r'.anonymous = r.anonymous ∧ r'.headers.values .authorization = [v]
  | none, r' => r' = r

theorem Request.receives_authorize (r : Request) (v : HeaderValue) :
    r.Receives (some v.asSensitive) (r.authorize v) :=
  ⟨congrArg (fun headers => { r with headers }) (Headers.erase_insert_self _ _ _),
    Headers.values_insert_self⟩

/-- **A legal token** is received by every request that is to bear it. -/
theorem Request.receives_bear {token : AccessToken} (h : token.isWritable) (r : Request) :
    ∃ r', r.bear token = (.ok (), r') ∧
      r.Receives (some ⟨Utf8.bytes ("Bearer " ++ token.text), true⟩) r' := by
  refine ⟨r.authorize token.bearer, ?_, r.receives_authorize token.bearer⟩
  rw [bear_eq, if_pos h]

/-- Any other one leaves it alone. -/
theorem Request.bear_of_not_isWritable {token : AccessToken} (h : ¬ token.isWritable)
    (r : Request) :
    r.bear token = (.error (.config .invalidHeaderValue), r) := by
  rw [bear_eq, if_neg h]

/-! ## What is due -/

/-- **What a credential has to write** that was built from a configuration and has been rotated
since: the pair of the scheme, the last token that was accepted, the token that a look-up answers,
or nothing. A token that is not legal in a header is not due. -/
inductive AuthConfig.Due (texts : List String) (t : Transport) (s : Session) :
    AuthConfig → Option HeaderValue → Prop
  | basic {b} : Due texts t s (.basic b)
      (some ⟨Utf8.bytes ("Basic " ++ basicCredentials b.username b.password.exposed), true⟩)
  | bearerToken {b text}
      (last : text =
        (texts.filter (AccessToken.supplied b.token.exposed).accepts).getLast?.getD b.token.exposed)
      (legal : (AccessToken.supplied text).isWritable) :
      Due texts t s (.bearerToken b) (some ⟨Utf8.bytes ("Bearer " ++ text), true⟩)
  | iam {b i token} (built : Issuer.build b = .ok i) (found : ((i.token t).run s).1 = .ok token)
      (legal : token.isWritable) :
      Due texts t s (.iam b) (some ⟨Utf8.bytes ("Bearer " ++ token.text), true⟩)
  | noAuth : Due texts t s .noAuth none

/-- A pair is written behind the name of its scheme. -/
theorem BasicConfig.asSensitive_value (b : BasicConfig) : b.value.asSensitive =
    ⟨Utf8.bytes ("Basic " ++ basicCredentials b.username b.password.exposed), true⟩ := by
  rw [BasicConfig.value, HeaderValue.ofText, HeaderValue.asSensitive]

namespace Credential

variable {c : Credential} {b : BearerConfig} {k : IamConfig}

/-- A token of the caller is taken as it is. -/
theorem eq_of_bearerConfig (h : b.credential = .ok c) :
    c = .bearer (.supplied b.token.exposed) := by
  obtain ⟨_, -, ⟨⟩⟩ := bind_eq_ok.mp h
  rfl

/-- An issuer is built of the configuration alone. -/
theorem exists_issuer_of_iamConfig (h : k.credential = .ok c) :
    ∃ i, Issuer.build k = .ok i ∧ c = .iam i := by
  rw [IamConfig.credential] at h
  rcases hbuild : Issuer.build k with f | i
  · rw [hbuild] at h
    cases h
  · rw [hbuild] at h
    cases h
    exact ⟨i, rfl, rfl⟩

end Credential

namespace AuthConfig

variable {config : AuthConfig} {c : Credential}

/-- **Apart from the request.** When a credential that was built from a configuration and has been
rotated since is asked to authenticate, in any session, then either something is due, and every
request receives it and is otherwise as it was; or nothing is due, and every request is refused for
one and the same reason and is as it was. What it does to the session is the same for every
request. -/
theorem receives_what_is_due (hc : config.credential = .ok c) (texts : List String) (t : Transport)
    (s : Session) :
    let run (r : Request) := (((c.rotated texts).authenticator t).authenticate r).run s
    (∃ due s', config.Due texts t s due ∧
      ∀ r, ∃ r', run r = ((.ok (), r'), s') ∧ r.Receives due r') ∨
    (∀ due, ¬ config.Due texts t s due) ∧ ∃ f s', ∀ r, run r = ((.error f, r), s') := by
  intro run
  rw [credential_eq_ownCredential] at hc
  cases config with
  | basic b =>
    obtain ⟨-, rfl⟩ := BasicConfig.credential_eq_ok.mp hc
    refine .inl ⟨_, s, .basic, fun r => ⟨r.authorize b.value, rfl, ?_⟩⟩
    rw [← b.asSensitive_value]
    exact r.receives_authorize b.value
  | bearerToken b =>
    obtain rfl := Credential.eq_of_bearerConfig hc
    have hrotated := AccessToken.rotated_supplied b.token.exposed texts
    obtain ⟨text, hlast⟩ : ∃ text, text =
        (texts.filter (AccessToken.supplied b.token.exposed).accepts).getLast?.getD
          b.token.exposed :=
      ⟨_, rfl⟩
    rw [← hlast] at hrotated
    have hrun (r : Request) : run r = (r.bear (.supplied text), s) := by
      rw [← hrotated]
      exact Credential.run_authenticate_bearer t r s _
    by_cases hlegal : (AccessToken.supplied text).isWritable
    · refine .inl ⟨_, s, .bearerToken hlast hlegal, fun r => ?_⟩
      obtain ⟨r', hbear, hreceives⟩ := r.receives_bear hlegal
      exact ⟨r', by rw [hrun, hbear], hreceives⟩
    -- the last token that was accepted is not legal in a header: there is no other one that is due
    · refine .inr ⟨?_, _, s, fun r => by rw [hrun, r.bear_of_not_isWritable hlegal]⟩
      rintro _ (_ | ⟨hlast', hlegal'⟩)
      obtain rfl := hlast.trans hlast'.symm
      exact hlegal hlegal'
  | iam b =>
    obtain ⟨i, hbuild, rfl⟩ := Credential.exists_issuer_of_iamConfig hc
    have hauthenticate (r : Request) : run r = _ := Credential.run_authenticate_iam i t r s
    rcases hi : (i.token t).run s with ⟨f | token, s'⟩
    -- no token was found, so that none is due
    · refine .inr ⟨?_, f, s', fun r => by rw [hauthenticate, hi]⟩
      rintro _ (_ | _ | ⟨hbuild', hfound', -⟩)
      cases hbuild.symm.trans hbuild'
      cases hfound'.symm.trans (congrArg Prod.fst hi)
    have hrun (r : Request) : run r = (r.bear token, s') := by rw [hauthenticate, hi]
    by_cases hlegal : token.isWritable
    · refine .inl ⟨_, s', .iam hbuild (congrArg Prod.fst hi) hlegal, fun r => ?_⟩
      obtain ⟨r', hbear, hreceives⟩ := r.receives_bear hlegal
      exact ⟨r', by rw [hrun, hbear], hreceives⟩
    · refine .inr ⟨?_, _, s', fun r => by rw [hrun, r.bear_of_not_isWritable hlegal]⟩
      rintro _ (_ | _ | ⟨hbuild', hfound', hlegal'⟩)
      cases hbuild.symm.trans hbuild'
      cases hfound'.symm.trans (congrArg Prod.fst hi)
      exact hlegal hlegal'
  | noAuth =>
    cases hc
    exact .inl ⟨none, s, .noAuth, fun r => ⟨r, rfl, rfl⟩⟩

/-- **Rotated four times**, twice to no effect: of a request that had two authorizations, the token
that was accepted last is the only one. -/
theorem receives_what_is_due_of_rotated :
    let c := Credential.bearer (.supplied "first")
    let r := { Request.ofItems with
      headers := ((Headers.empty.append .authorization (.ofText "old")).append .accept
        (.ofText "text/plain")).append .authorization (.ofText "older") }
    (bearerToken ⟨⟨"first"⟩⟩).credential = .ok c ∧
      ∃ r' s',
        (((c.rotated ["second", "", "third", ""]).authenticator .throttling).authenticate r).run
          (.start 0) = ((.ok (), r'), s') ∧
        r'.anonymous = r.anonymous ∧
        r'.headers.values .authorization = [⟨Utf8.bytes ("Bearer " ++ "third"), true⟩] := by
  intro c r
  have hc : (bearerToken ⟨⟨"first"⟩⟩).credential = .ok c := rfl
  refine ⟨hc, ?_⟩
  have hlast : "third" = (["second", "", "third", ""].filter
      (AccessToken.supplied "first").accepts).getLast?.getD "first" := by decide
  have hlegal : (AccessToken.supplied "third").isWritable := by decide
  rcases receives_what_is_due hc ["second", "", "third", ""] .throttling (.start 0) with
    ⟨due, s', hdue, hreceives⟩ | ⟨hnone, -⟩
  · obtain ⟨r', hrun, hr'⟩ := hreceives r
    obtain _ | ⟨hlast', -⟩ := hdue
    obtain rfl := hlast'.trans hlast.symm
    exact ⟨r', s', hrun, hr'⟩
  · exact absurd (.bearerToken hlast hlegal) (hnone _)

end AuthConfig

end Outbound
