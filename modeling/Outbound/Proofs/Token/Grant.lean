import Outbound.Proofs.Credential.Building
import Outbound.Proofs.Encoding.Form
import Outbound.Proofs.Token.Keeping

/-!
# What a token request says

A token request holds the API key as it was configured, whatever characters stand in it, and nothing
that the configuration does not call for.

* **issuer** — a valid configuration whose endpoint is a URL yields one (`build_eq_ok`);
* **body** — a form with the parameters of the grant (`request_eq`), which is read as these and no
  others (`Form.parse_encode`);
* **headers** — the client credentials only if there are any (`values_request_authorization`), and
  one value for each of the others (`values_request_of_ne`);
* **sending** — a look-up sends no other token request (`tokenRequests_token`).
-/

namespace Outbound

open Outbound.Encoding Outbound.Text

/-! ## The issuer -/

namespace IamConfig

/-- **Valid client credentials** are paired. -/
theorem paired_of_validate {c : IamConfig} (h : c.validate = .ok ()) : c.Paired := by
  obtain ⟨_, -, hpaired⟩ := bind_eq_ok.mp h
  have hholds := c.goesBy_paired.exists_ok_iff.mp ⟨(), hpaired⟩ _ List.mem_cons_self
  exact Classical.not_not.mp fun hnot => hholds _ ⟨hnot, rfl⟩

/-- **The client credentials** as they stand in a header, if there are any. -/
def clientValue (c : IamConfig) : Option HeaderValue :=
  match c.clientId, c.clientSecret with
  | some id, some secret => some (.ofText ("Basic " ++ basicCredentials id secret.exposed))
  | _, _ => none

end IamConfig

namespace Issuer

/-- **The issuer** of a valid configuration. -/
theorem build_eq_ok {config : IamConfig} {url : Url} (hvalid : config.validate = .ok ())
    (hendpoint : config.endpoint = .ok url) :
    build config = .ok ⟨config, url, config.clientValue⟩ := by
  rw [build, hvalid, hendpoint, IamConfig.clientValue]
  rcases config.clientId with _ | id
  · rfl
  · rcases config.clientSecret with _ | secret
    · rfl
    · simp only [basicValue_eq_ok]
      rfl

variable (i : Issuer)

/-! ## The request -/

/-- The headers of a token request, apart from the client credentials. -/
def formHeaders : Headers :=
  (Headers.empty.insert .contentType (.ofText "application/x-www-form-urlencoded")).insert .accept
    (.ofText "application/json")

theorem values_formHeaders_of_ne {name : HeaderName} (hcontentType : name ≠ .contentType)
    (haccept : name ≠ .accept) : formHeaders.values name = [] := by
  rw [formHeaders, Headers.values_insert_of_ne haccept, Headers.values_insert_of_ne hcontentType,
    Headers.values_empty]

/-- **A token request** in full. -/
theorem request_eq :
    i.request = {
      method := "POST"
      url := i.endpoint
      headers := match i.client with
        | some v => formHeaders.insert .authorization v.asSensitive
        | none => formHeaders
      body := .bytes (Utf8.bytes (Form.encode i.parameters))
      budget := none
      cancellation := none } := by
  rw [request]
  cases i.client <;> rfl

/-- **The client credentials** are the only value for the authorization. -/
theorem values_request_authorization :
    i.request.headers.values .authorization = (i.client.map HeaderValue.asSensitive).toList := by
  rw [request_eq]
  cases i.client with
  | none => exact values_formHeaders_of_ne (by decide) (by decide)
  | some v => exact Headers.values_insert_self

/-- **The other headers** do not depend on the configuration. -/
theorem values_request_of_ne {name : HeaderName} (hname : name ≠ .authorization) :
    i.request.headers.values name = formHeaders.values name := by
  rw [request_eq]
  cases i.client with
  | none => rfl
  | some v => exact Headers.values_insert_of_ne hname

/-- **A look-up** sends this token request or none. -/
theorem tokenRequests_token (t : Transport) (s : Session) :
    ∃ sent, ((i.token t).run s).2.tokenRequests = s.tokenRequests ++ sent ∧
      ∀ p ∈ sent, p.2 = i.request := by
  rcases hv : s.validToken? with _ | token
  · refine ⟨[(s.position, i.request)], i.tokenRequests_token_miss t hv, fun p hp => ?_⟩
    rw [List.mem_singleton.mp hp]
  · refine ⟨[], ?_, List.forall_mem_nil _⟩
    rw [i.token_hit t hv, List.append_nil]

end Issuer

/-- **What is asked of the endpoint** for a configuration: a token in return for the API key, in the
scope that is configured, if one is. -/
def IamConfig.grant (c : IamConfig) : List (String × String) :=
  match c.scope with
  | none => [("grant_type", "urn:ibm:params:oauth:grant-type:apikey"), ("apikey", c.apiKey.exposed),
      ("response_type", "cloud_iam")]
  | some scope =>
    [("grant_type", "urn:ibm:params:oauth:grant-type:apikey"), ("apikey", c.apiKey.exposed),
      ("response_type", "cloud_iam"), ("scope", scope)]

/-- **Asked as configured.** Every valid configuration whose endpoint is a URL has an issuer. What
this sends is a form for the endpoint, in which the parameters of the grant are read character for
character, and no others. It has one value for each of its headers, and for the authorization
exactly if there are client credentials; and every look-up of a token sends it or nothing. -/
theorem asked_as_configured {config : IamConfig} {url : Url} (hvalid : config.validate = .ok ())
    (hendpoint : config.endpoint = .ok url) :
    ∃ i, Issuer.build config = .ok i ∧ i.request.method = "POST" ∧ i.request.url = url ∧
      (∃ text, i.request.body = .bytes (Utf8.bytes text) ∧ Form.parse text = config.grant) ∧
      i.request.headers.values .contentType = [.ofText "application/x-www-form-urlencoded"] ∧
      i.request.headers.values .accept = [.ofText "application/json"] ∧
      ((config.clientId = none ∧ config.clientSecret = none ∧
          i.request.headers.values .authorization = []) ∨
        ∃ id secret, config.clientId = some id ∧ config.clientSecret = some secret ∧
          i.request.headers.values .authorization =
            [(HeaderValue.ofText ("Basic " ++ basicCredentials id secret.exposed)).asSensitive]) ∧
      ∀ t s, ∃ sent, ((i.token t).run s).2.tokenRequests = s.tokenRequests ++ sent ∧
        ∀ p ∈ sent, p.2 = i.request := by
  refine ⟨_, Issuer.build_eq_ok hvalid hendpoint, ?_⟩
  obtain ⟨i, hi⟩ : ∃ i : Issuer, i = ⟨config, url, config.clientValue⟩ := ⟨_, rfl⟩
  rw [← hi]
  have hparameters : i.parameters = config.grant := by
    rw [Issuer.parameters, IamConfig.grant, hi]
    cases config.scope <;> rfl
  have hauthorization := i.values_request_authorization
  refine ⟨?_, ?_, ⟨Form.encode i.parameters, ?_, ?_⟩, ?_, ?_, ?_, i.tokenRequests_token⟩
  · rw [i.request_eq]
  · rw [i.request_eq, hi]
  · rw [i.request_eq]
  · rw [Form.parse_encode, hparameters]
  · rw [i.values_request_of_ne (by decide)]
    rfl
  · rw [i.values_request_of_ne (by decide)]
    rfl
  · rcases IamConfig.paired_of_validate hvalid
      with ⟨hid, hsecret⟩ | ⟨id, secret, hid, hsecret, -, -⟩
    · refine .inl ⟨hid, hsecret, ?_⟩
      rw [hauthorization, hi, IamConfig.clientValue, hid]
      rfl
    · refine .inr ⟨id, secret, hid, hsecret, ?_⟩
      rw [hauthorization, hi, IamConfig.clientValue, hid, hsecret]
      rfl

/-- A configuration with the separators of a form in its API key and in its scope. -/
def IamConfig.punctuated : IamConfig :=
  ⟨⟨"a&b=c+%20 é"⟩,
    ⟨"https", some ⟨"", "", .name "iam.example.com", none⟩, .segments ["identity", "token"],
      none, none⟩,
    some "id", some ⟨"secret"⟩, some "read write&apikey=x"⟩

/-- **Separators** in the API key or in the scope part nothing. -/
theorem asked_as_configured_of_punctuated :
    IamConfig.punctuated.validate = .ok () ∧
      IamConfig.punctuated.endpoint = .ok IamConfig.punctuated.url ∧
      ∃ i, Issuer.build .punctuated = .ok i ∧
        (∃ text, i.request.body = .bytes (Utf8.bytes text) ∧
          Form.parse text = [("grant_type", "urn:ibm:params:oauth:grant-type:apikey"),
            ("apikey", "a&b=c+%20 é"), ("response_type", "cloud_iam"),
            ("scope", "read write&apikey=x")]) ∧
        i.request.headers.values .authorization =
          [(HeaderValue.ofText ("Basic " ++ basicCredentials "id" "secret")).asSensitive] := by
  have hvalid : IamConfig.punctuated.validate = .ok () := eq_ok_of_toOption (by decide +kernel)
  have hendpoint : IamConfig.punctuated.endpoint = .ok IamConfig.punctuated.url :=
    eq_ok_of_toOption (by decide +kernel)
  obtain ⟨i, hbuild, -, -, hbody, -, -, hclient, -⟩ := asked_as_configured hvalid hendpoint
  refine ⟨hvalid, hendpoint, i, hbuild, hbody, ?_⟩
  rcases hclient with ⟨hid, -, -⟩ | ⟨id, secret, hid, hsecret, hvalue⟩
  · cases hid
  · cases hid
    cases hsecret
    exact hvalue

end Outbound
