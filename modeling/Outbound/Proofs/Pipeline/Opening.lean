import Outbound.Proofs.Authenticator.Writing
import Outbound.Proofs.Pipeline.Passing

/-!
# The first request of a call

Three stages have their hands on a request before the transport receives it: default headers,
credentials, compression. All of them write headers, each by a rule of its own.

* **payload** — what compression looks at and what it writes, apart from the rest of a request;
* **opening** — `Opens` says what the first request of a call is like in terms of the settings, the
  request that was handed in and the credential; `opens_of_authenticate` goes through the stages;
* **call** — `opened_by_first_request`: without interceptors of the user the transport receives such
  a request at first, and if there are no credentials it receives none.
-/

namespace Outbound

open Outbound.Time

/-! ## Payloads -/

/-- **Payloads**: a body, and what the headers say about its encoding and its length. -/
structure Payload where
  body : Body
  encodings : List HeaderValue
  lengths : List HeaderValue

/-- **Compressing a payload.** If there are bytes, and no encoding, the bytes are compressed, and
this is the encoding; a length is not stated any more. Any other payload stays as it is. -/
def Payload.compress : Payload → Payload
  | ⟨.bytes (b :: bs), [], _⟩ => ⟨.gzip (b :: bs), [.ofText "gzip"], []⟩
  | x => x

namespace Request

/-- The payload of a request. -/
def payload (r : Request) : Payload :=
  ⟨r.body, r.headers.values .contentEncoding, r.headers.values .contentLength⟩

variable (r : Request)

/-- **Compressing a request** is compressing its payload. -/
theorem payload_compress : r.compress.payload = r.payload.compress := by
  by_cases hencoded : r.headers.contains .contentEncoding
  · obtain ⟨value, values, hvalues⟩ := List.exists_cons_of_ne_nil (Headers.contains_iff.mp hencoded)
    rw [compress, if_pos hencoded, payload, hvalues]
    rcases r.body with _ | (_ | ⟨b, bs⟩) | source <;> rfl
  · have hvalues := Headers.values_of_not_contains hencoded
    rw [compress, if_neg hencoded]
    cases hbody : r.body with
    | bytes content =>
      cases content with
      | nil =>
        simp only [payload, hbody]
        rfl
      | cons b bs =>
        have hother : HeaderName.contentEncoding ≠ .contentLength := by decide
        simp only [payload, hbody, hvalues, Payload.compress, Headers.values_erase_self,
          Headers.values_erase_of_ne hother, Headers.values_insert_self]
    | _ =>
      simp only [payload, hbody]
      rfl

end Request

/-! ## Opening a call -/

/-- The payload of a request with the defaults that settings give. -/
def Setting.ordinaryPayload (settings : List Setting) (r : Request) : Payload :=
  ⟨r.body, ordinaryValues settings r .contentEncoding, ordinaryValues settings r .contentLength⟩

/-- The session in which a call asks for its first credentials. -/
def Session.opening (s : Session) (r : Request) : Session :=
  ((s.record (.opened .authenticate "pipeline_send")).record
    (.counted .authenticate .attempt)).record (.authenticating s.now r.budget)

namespace Pipeline

/-- **Opening a call**: what a request is like that settings and a credential have made of the one
that was handed in. -/
structure Opens (c : Credential) (t : Transport) (settings : List Setting) (r : Request)
    (s : Session) (q : Request) : Prop where
  method : q.method = r.method
  url : q.url = r.url
  budget : q.budget = r.budget
  cancellation : q.cancellation = r.cancellation
  /-- Headers that neither credentials nor compression write are those of the request, or
  defaults. -/
  values : ∀ name, name ≠ .authorization → name ≠ .contentEncoding → name ≠ .contentLength →
    q.headers.values name = Setting.ordinaryValues settings r name
  /-- What the credential writes takes the place of any other authorization. -/
  authorization : c.Writes t (s.opening r) (Setting.ordinaryValues settings r .authorization)
    (q.headers.values .authorization)
  /-- Compression is the last stage. -/
  payload : q.payload =
    if Setting.compress settings then (Setting.ordinaryPayload settings r).compress
    else Setting.ordinaryPayload settings r

variable {c : Credential} {t : Transport} {settings : List Setting} {r r₁ : Request}
  {s s₁ : Session}

/-- **First credentials** authorize the request with its defaults. -/
theorem authorized_of_opened
    (h : ((build (c.authenticator t) settings).authenticate
      ((build (c.authenticator t) settings).prepare r)).run s = ((.ok (), r₁), s₁)) :
    c.Authorized t ((build (c.authenticator t) settings).prepare r) (s.opening r) r₁ := by
  have hopened := run_authenticate (build (c.authenticator t) settings)
    ((build (c.authenticator t) settings).prepare r) s
  rw [h, authenticator_build] at hopened
  rcases hc : ((c.authenticator t).call ((build (c.authenticator t) settings).prepare r)).run
    ((s.record (.opened .authenticate "pipeline_send")).record (.counted .authenticate .attempt))
    with ⟨⟨result, r₂⟩, s₂⟩
  rw [hc] at hopened
  cases hopened
  have hauthenticate : (c.authenticate t ((build (c.authenticator t) settings).prepare r)).run
      (s.opening r) = ((.ok (), r₁), s₂) := hc
  exact Credential.authorized_of_authenticate hauthenticate

/-- **Through the stages**: defaults, credentials, compression. -/
theorem opens_of_authenticate
    (h : ((build (c.authenticator t) settings).authenticate
      ((build (c.authenticator t) settings).prepare r)).run s = ((.ok (), r₁), s₁)) :
    Opens c t settings r s (if Setting.compress settings then r₁.compress else r₁) := by
  have hauthorized := authorized_of_opened h
  have hothers (name : HeaderName) (hname : name ≠ .authorization) :
      r₁.headers.values name = Setting.ordinaryValues settings r name := by
    rw [hauthorized.others name hname, values_prepare_build]
  have hwritten := hauthorized.written
  rw [values_prepare_build] at hwritten
  have hrest : r₁.method = r.method ∧ r₁.url = r.url ∧ r₁.budget = r.budget ∧
      r₁.cancellation = r.cancellation ∧ r₁.body = r.body := by
    rw [hauthorized.rest]
    exact ⟨rfl, rfl, rfl, rfl, rfl⟩
  obtain ⟨hmethod, hurl, hbudget, hcancellation, hbody⟩ := hrest
  have hpayload : r₁.payload = Setting.ordinaryPayload settings r := by
    rw [Request.payload, hbody, hothers _ (by decide), hothers _ (by decide)]
    rfl
  by_cases hcompress : Setting.compress settings
  · rw [if_pos hcompress]
    exact {
      method := r₁.method_compress.trans hmethod
      url := r₁.url_compress.trans hurl
      budget := r₁.budget_compress.trans hbudget
      cancellation := r₁.cancellation_compress.trans hcancellation
      values := fun name hname hencoding hlength =>
        (r₁.values_compress_of_ne hencoding hlength).trans (hothers name hname)
      authorization := by
        rw [r₁.values_compress_of_ne (by decide) (by decide)]
        exact hwritten
      payload := by rw [if_pos hcompress, r₁.payload_compress, hpayload] }
  · rw [if_neg hcompress]
    exact {
      method := hmethod
      url := hurl
      budget := hbudget
      cancellation := hcancellation
      values := fun name hname _ _ => hothers name hname
      authorization := hwritten
      payload := by rw [if_neg hcompress, hpayload] }

/-- **The first request of a call.** Without interceptors of the user, the first thing that a call
passes is the transport, which receives the request with its defaults and credentials, compressed if
the settings come to that. A call that gets no credentials passes nothing at all, whatever the
interceptors. -/
theorem opened_by_first_request (c : Credential) (t : Transport) (settings : List Setting)
    (rounds : Nat) (r : Request) (s : Session) :
    let p := build (c.authenticator t) settings
    let run := (p.send t (rounds + 1) r).run s
    (∀ r₁ s₁, settings.filterMap Setting.interceptor? = [] →
      (p.authenticate (p.prepare r)).run s = ((.ok (), r₁), s₁) →
      ∃ position q rest, run.2.passages = s.passages ++ .sent position q :: rest ∧
        q = (if Setting.compress settings then r₁.compress else r₁) ∧ Opens c t settings r s q) ∧
    ∀ f r₁ s₁, (p.authenticate (p.prepare r)).run s = ((.error f, r₁), s₁) →
      run = (.failure f, s₁) ∧ run.2.passages = s.passages := by
  intro p run
  have hreticent : p.authenticator.Reticent := by
    rw [authenticator_build]
    exact c.reticent t
  have hcredentials := passages_authenticate hreticent (p.prepare r) s
  constructor
  · intro r₁ s₁ hnone hopen
    have hcustom : p.custom = ([] : List Rewriter).map Rewriter.interceptor := by
      rw [custom_build, hnone]
      rfl
    rcases hchain : ((chain t (p.interceptors (rounds + 1))).run r₁).run s₁ with ⟨outcome, s₂⟩
    have hrun : run = (outcome, s₂) := (run_send_opened hopen (rounds + 1)).trans hchain
    obtain ⟨xs, hattempted, hpassages, hnil, -⟩ :=
      attempted_of_chain hreticent hcustom hchain
    rw [hopen] at hcredentials
    rw [hcredentials] at hpassages
    cases xs with
    | nil => exact absurd (hnil rfl) (Nat.succ_ne_zero rounds)
    | cons x xs =>
      have hheld : x.held = if Setting.compress settings then r₁.compress else r₁ := by
        rw [hattempted.held_of_head? x rfl, compressed, compresses_build]
      -- there is no interceptor on the way, so what is held is what is received
      have hreceived : x.received = x.held := by
        obtain ⟨_, _, hrewritten, -⟩ := hattempted.madeBy x List.mem_cons_self
        exact hrewritten.eq_of_nil
      refine ⟨x.position, x.received, xs.flatMap (Attempt.passages []), ?_, hreceived.trans hheld,
        ?_⟩
      · rw [hrun, hpassages]
        rfl
      · rw [hreceived, hheld]
        exact opens_of_authenticate hopen
  · intro f r₁ s₁ hopen
    have hrun : run = (.failure f, s₁) := run_send_refused hopen (rounds + 1)
    rw [hopen] at hcredentials
    exact ⟨hrun, by rw [hrun]; exact hcredentials⟩

/-- **A request with bytes**, a default for what it accepts and one for its authorization: the
credential takes the place of the latter. And a token that cannot stand in a header, with which
nothing is sent. -/
theorem opened_by_first_request_with_bytes :
    let settings : List Setting := [.defaultHeader .authorization (.ofText "default"), .gzip true,
      .defaultHeader .accept (.ofText "text/plain")]
    let r := Request.ofItems.withBody (.bytes [1, 2, 3])
    let send := fun c : Credential =>
      ((build (c.authenticator .throttling) settings).send .throttling 1 r).run (.start 0)
    (∃ position q rest,
      (send (.basic (.ofText "Basic dTpw"))).2.passages = .sent position q :: rest ∧
      q.headers.values .accept = [.ofText "text/plain"] ∧
      q.headers.values .authorization = [(HeaderValue.ofText "Basic dTpw").asSensitive] ∧
      q.body = .gzip [1, 2, 3]) ∧
    (send (.bearer (.supplied "a\nb"))).1 = .failure (.config .invalidHeaderValue) ∧
      (send (.bearer (.supplied "a\nb"))).2.passages = [] := by
  intro settings r send
  have hsent := (opened_by_first_request (.basic (.ofText "Basic dTpw")) .throttling settings 0 r
    (.start 0)).1 _ _ rfl rfl
  have hfailed := (opened_by_first_request (.bearer (.supplied "a\nb")) .throttling settings 0 r
    (.start 0)).2 _ _ _ rfl
  refine ⟨?_, congrArg Prod.fst hfailed.1, hfailed.2⟩
  obtain ⟨position, q, rest, hpassages, -, hopens⟩ := hsent
  refine ⟨position, q, rest, hpassages, ?_, ?_, ?_⟩
  · rw [hopens.values .accept (by decide) (by decide) (by decide)]
    rfl
  · have hwritten := hopens.authorization
    generalize q.headers.values .authorization = values at hwritten ⊢
    cases hwritten with
    | basic => rfl
    | token offers => cases offers
  · exact congrArg Payload.body hopens.payload

end Pipeline

end Outbound
