import Outbound.Proofs.Authenticator.Frame
import Outbound.Proofs.Credential.Selection
import Outbound.Proofs.Token.Grant

/-!
# What secrets do not change

Properties may hold secrets. Of these it is checked whether they are there and how they begin and
end; nothing that is shown, be it a configuration, a credential or a failure, depends on anything
else of them.

* **stand-ins** — a secret is checked like its `standIn`, of which there are three
  (`validate_masked`);
* **building** — whether stand-ins are put in the place of the secrets first or last makes no
  difference to what properties describe (`ofProperties_masked`);
* **showing** — configurations that agree but for their secrets have the same text
  (`AgreesButForSecrets.text_eq`), and their credentials are shown alike
  (`AgreesButForSecrets.shownAlike`);
* **the theorem** — `Properties.shown_alike`, for two lists that differ in secrets only.
-/

namespace Outbound

/-! ## Stand-ins -/

/-- **A stand-in** for a secret: empty if the secret is, with a stray end if it has one, and
otherwise one and the same for all. -/
def standIn (s : String) : String :=
  if s.isEmpty then "" else if hasStrayDelimiter s then "\"" else "*"

theorem isEmpty_standIn (s : String) : (standIn s).isEmpty = s.isEmpty := by
  rw [standIn]
  split
  · next h =>
    rw [h]
    rfl
  · next h =>
    rw [Bool.not_eq_true] at h
    split <;> rw [h] <;> rfl

theorem hasStrayDelimiter_standIn (s : String) :
    hasStrayDelimiter (standIn s) = hasStrayDelimiter s := by
  rw [standIn]
  split
  · next h => rw [String.isEmpty_iff.mp h]
  · split
    · next h =>
      rw [h]
      decide +kernel
    · next h =>
      rw [Bool.not_eq_true] at h
      rw [h]
      decide +kernel

/-- **The same stand-in** serves for secrets that are empty alike and have stray ends alike. -/
theorem standIn_congr {s t : String} (hempty : s = "" ↔ t = "")
    (hends : HasStrayEnd s ↔ HasStrayEnd t) :
    standIn s = standIn t := by
  have hempty' : s.isEmpty = t.isEmpty := by
    rw [Bool.eq_iff_iff, String.isEmpty_iff, String.isEmpty_iff, hempty]
  have hends' : hasStrayDelimiter s = hasStrayDelimiter t := by
    rw [Bool.eq_iff_iff, hasStrayDelimiter_iff, hasStrayDelimiter_iff, hends]
  rw [standIn, hempty', hends', standIn]

theorem checkCredential_standIn (kind : AuthType) (property value : String) :
    checkCredential kind property (standIn value) = checkCredential kind property value := by
  rw [checkCredential, isEmpty_standIn, hasStrayDelimiter_standIn, checkCredential]

/-- A secret in the place of which its stand-in is put. -/
def Secret.masked (s : Secret) : Secret := ⟨standIn s.exposed⟩

theorem Secret.getD_masked (s : Option Secret) :
    (s.map masked).getD ⟨""⟩ = (s.getD ⟨""⟩).masked := by
  cases s <;> rfl

namespace AuthConfig

/-- **A configuration with stand-ins** for its secrets. -/
def masked : AuthConfig → AuthConfig
  | .basic c => .basic { c with password := c.password.masked }
  | .bearerToken c => .bearerToken ⟨c.token.masked⟩
  | .iam c =>
    .iam { c with apiKey := c.apiKey.masked, clientSecret := c.clientSecret.map Secret.masked }
  | .noAuth => .noAuth

/-- **Validating** looks at no more of a secret than its stand-in shows. -/
theorem validate_masked (c : AuthConfig) : c.masked.validate = c.validate := by
  cases c with
  | basic c =>
    simp only [masked, validate, BasicConfig.validate, Secret.masked, checkCredential_standIn]
  | bearerToken c =>
    simp only [masked, validate, BearerConfig.validate, Secret.masked, isEmpty_standIn]
  | iam c =>
    obtain ⟨apiKey, url, clientId, clientSecret, scope⟩ := c
    cases clientId <;> cases clientSecret <;>
      simp only [masked, validate, IamConfig.validate, Secret.masked, checkCredential_standIn,
        isEmpty_standIn, Option.map_none, Option.map_some]
  | noAuth => rfl

end AuthConfig

/-! ## Properties -/

namespace Properties

variable {ps qs : Properties} {name : String}

/-- The names of properties that hold secrets. -/
def secretNames : List String := ["PASSWORD", "BEARER_TOKEN", "APIKEY", "CLIENT_SECRET"]

/-- The stand-in of a value, if the name is that of a secret, and otherwise the value. -/
def maskedValue (name value : String) : String :=
  if name ∈ secretNames then standIn value else value

/-- **Properties with stand-ins** for the secrets. -/
def masked (ps : Properties) : Properties := ps.map fun p => (p.1, maskedValue p.1 p.2)

theorem maskedValue_eq_empty_iff {value : String} : maskedValue name value = "" ↔ value = "" := by
  rw [maskedValue]
  split
  · rw [← String.isEmpty_iff, isEmpty_standIn, String.isEmpty_iff]
  · rfl

theorem found?_masked (name : String) (p : String × String) :
    found? name (p.1, maskedValue p.1 p.2) = (found? name p).map (maskedValue name) := by
  by_cases h : p.1 = name ∧ p.2 ≠ ""
  · obtain ⟨rfl, hne⟩ := h
    have hne' : maskedValue p.1 p.2 ≠ "" := mt maskedValue_eq_empty_iff.mp hne
    rw [found?, found?, if_pos ⟨rfl, hne'⟩, if_pos ⟨rfl, hne⟩, Option.map_some]
  · have h' : ¬ (p.1 = name ∧ maskedValue p.1 p.2 ≠ "") := by rwa [Ne, maskedValue_eq_empty_iff]
    rw [found?, found?, if_neg h', if_neg h, Option.map_none]

/-- **Looking up** finds the stand-in of what was found. -/
theorem get?_masked (ps : Properties) (name : String) :
    ps.masked.get? name = (ps.get? name).map (maskedValue name) := by
  induction ps with
  | nil => rfl
  | cons p ps ih =>
    rw [masked, List.map_cons, get?_cons, ← masked, ih, found?_masked, get?_cons, Option.map_or]

theorem get?_masked_secret (ps : Properties) (h : name ∈ secretNames) :
    (ps.masked.get? name).map Secret.mk = ((ps.get? name).map Secret.mk).map Secret.masked := by
  rw [get?_masked, Option.map_map, Option.map_map]
  congr 1
  funext value
  simp only [Function.comp, Secret.masked, maskedValue, if_pos h]

theorem get?_masked_open (ps : Properties) (h : name ∉ secretNames) :
    ps.masked.get? name = ps.get? name := by
  have hid : maskedValue name = id := funext fun value => if_neg h
  rw [get?_masked, hid, Option.map_id, id]

theorem kind_masked (ps : Properties) : ps.masked.kind = ps.kind := by
  rw [kind, ps.get?_masked_open (by decide), kind]

end Properties

namespace AuthConfig

/-- A configuration, if it is valid. -/
def checked (c : AuthConfig) : Except ConfigFailure AuthConfig := do
  c.validate
  return c

theorem checked_masked (c : AuthConfig) : c.masked.checked = masked <$> c.checked := by
  rw [checked, validate_masked, checked, map_bind]
  rfl

/-- **What is put together** from the properties of a kind, before it is checked. -/
def unchecked (kind : AuthType) (ps : Properties) : Except ConfigFailure AuthConfig :=
  let secret (name : String) : Option Secret := (ps.get? name).map Secret.mk
  match kind with
  | .basic => return .basic ⟨(ps.get? "USERNAME").getD "", (secret "PASSWORD").getD ⟨""⟩⟩
  | .bearerToken => return .bearerToken ⟨(secret "BEARER_TOKEN").getD ⟨""⟩⟩
  | .iam => do
    let url ← parseUrl ((ps.get? "URL").getD IamConfig.defaultUrl)
    return .iam ⟨(secret "APIKEY").getD ⟨""⟩, url, ps.get? "CLIENT_ID", secret "CLIENT_SECRET",
      ps.get? "SCOPE"⟩
  | .noAuth => return .noAuth

theorem ofKind_eq (kind : AuthType) (ps : Properties) :
    ofKind kind ps = unchecked kind ps >>= checked := by
  cases kind with
  | basic =>
    simp only [ofKind, BasicConfig.build, bind_assoc, pure_bind, unchecked, checked, validate]
  | bearerToken =>
    simp only [ofKind, BearerConfig.build, bind_assoc, pure_bind, unchecked, checked, validate]
  | iam => simp only [ofKind, IamConfig.build, bind_assoc, pure_bind, unchecked, checked, validate]
  | noAuth => rfl

theorem unchecked_masked (kind : AuthType) (ps : Properties) :
    unchecked kind ps.masked = masked <$> unchecked kind ps := by
  have hsecret (name : String) (h : name ∈ Properties.secretNames) := ps.get?_masked_secret h
  have hopen (name : String) (h : name ∉ Properties.secretNames) := ps.get?_masked_open h
  cases kind with
  | basic =>
    simp only [unchecked, hsecret "PASSWORD" (by decide), hopen "USERNAME" (by decide),
      Secret.getD_masked]
    rfl
  | bearerToken =>
    simp only [unchecked, hsecret "BEARER_TOKEN" (by decide), Secret.getD_masked]
    rfl
  | iam =>
    simp only [unchecked, hsecret "APIKEY" (by decide), Secret.getD_masked,
      hsecret "CLIENT_SECRET" (by decide), hopen "URL" (by decide),
      hopen "CLIENT_ID" (by decide), hopen "SCOPE" (by decide), map_bind]
    rfl
  | noAuth => rfl

/-- **Stand-ins first or last.** -/
theorem ofProperties_masked (ps : Properties) :
    ofProperties ps.masked = masked <$> ofProperties ps := by
  rw [ofProperties_eq, ofProperties_eq, ps.kind_masked, map_bind]
  congr 1
  funext kind
  rw [ofKind_eq, ofKind_eq, unchecked_masked, map_bind, bind_map_left]
  congr 1
  funext c
  exact c.checked_masked

end AuthConfig

/-! ## Showing -/

/-- **Credentials that are shown alike**: of one kind, and with the same text, be a token kept or
not. -/
def Credential.ShownAlike (a b : Credential) : Prop :=
  a.kind = b.kind ∧ ∀ cached, a.text cached = b.text cached

theorem Credential.shownAlike_basic (v w : HeaderValue) : (basic v).ShownAlike (basic w) := by
  refine ⟨rfl, fun _ => ?_⟩
  unfold text
  rfl

theorem Credential.shownAlike_supplied (s t : String) :
    (bearer (.supplied s)).ShownAlike (bearer (.supplied t)) := by
  refine ⟨rfl, fun _ => ?_⟩
  unfold text AccessToken.redacted
  rfl

theorem Credential.shownAlike_iam {i j : Issuer} (hendpoint : i.endpoint = j.endpoint)
    (hclient : i.config.clientId = j.config.clientId) (hscope : i.config.scope = j.config.scope) :
    (iam i).ShownAlike (iam j) := by
  have htext (cached : Bool) : i.text cached = j.text cached := by
    unfold Issuer.text
    rw [hendpoint, hclient, hscope]
  refine ⟨rfl, fun cached => ?_⟩
  unfold text
  exact htext cached

theorem Secret.redacted_eq (s t : Secret) : s.redacted = t.redacted := by rw [redacted, redacted]

/-- **An issuer** holds the configuration that it is built of, and its endpoint. -/
theorem Issuer.of_build {config : IamConfig} {i : Issuer} (h : build config = .ok i) :
    i.config = config ∧ config.endpoint = .ok i.endpoint := by
  obtain ⟨⟨⟩, hvalid, h'⟩ := bind_eq_ok.mp h
  obtain ⟨url, hurl, -⟩ := bind_eq_ok.mp h'
  cases h.symm.trans (build_eq_ok hvalid hurl)
  exact ⟨rfl, hurl⟩

namespace AuthConfig

variable {c d : AuthConfig}

/-- **Configurations that agree but for their secrets**: of one kind, and the same in all other
parts. Whether there is a client secret is no secret. -/
inductive AgreesButForSecrets : AuthConfig → AuthConfig → Prop
  | basic (username : String) (password password' : Secret) :
    AgreesButForSecrets (.basic ⟨username, password⟩) (.basic ⟨username, password'⟩)
  | bearerToken (token token' : Secret) :
    AgreesButForSecrets (.bearerToken ⟨token⟩) (.bearerToken ⟨token'⟩)
  | iam (apiKey apiKey' : Secret) (url : Url) (clientId scope : Option String)
    {clientSecret clientSecret' : Option Secret} (h : clientSecret.isSome = clientSecret'.isSome) :
    AgreesButForSecrets (.iam ⟨apiKey, url, clientId, clientSecret, scope⟩)
      (.iam ⟨apiKey', url, clientId, clientSecret', scope⟩)
  | noAuth : AgreesButForSecrets .noAuth .noAuth

theorem agreesButForSecrets_of_masked_eq (h : c.masked = d.masked) : c.AgreesButForSecrets d := by
  cases c with
  | basic c =>
    cases d with
    | basic d =>
      obtain ⟨username, password⟩ := c
      obtain ⟨username', password'⟩ := d
      simp only [masked, basic.injEq, BasicConfig.mk.injEq] at h
      obtain ⟨rfl, -⟩ := h
      exact .basic _ _ _
    | _ => cases h
  | bearerToken c =>
    cases d with
    | bearerToken d => exact .bearerToken _ _
    | _ => cases h
  | iam c =>
    cases d with
    | iam d =>
      obtain ⟨apiKey, url, clientId, clientSecret, scope⟩ := c
      obtain ⟨apiKey', url', clientId', clientSecret', scope'⟩ := d
      simp only [masked, iam.injEq, IamConfig.mk.injEq] at h
      obtain ⟨-, rfl, rfl, hsecret, rfl⟩ := h
      refine .iam _ _ _ _ _ ?_
      simpa only [Option.isSome_map] using congrArg Option.isSome hsecret
    | _ => cases h
  | noAuth =>
    cases d with
    | noAuth => exact .noAuth
    | _ => cases h

/-- **The text** of a configuration shows nothing of its secrets. -/
theorem AgreesButForSecrets.text_eq (h : c.AgreesButForSecrets d) : c.text = d.text := by
  unfold text
  cases h with
  | basic username password password' => simp only [Secret.redacted_eq password password']
  | bearerToken token token' => simp only [Secret.redacted_eq token token']
  | @iam apiKey apiKey' _ _ _ clientSecret clientSecret' h =>
    have hmap : clientSecret.map Secret.redacted = clientSecret'.map Secret.redacted := by
      rcases clientSecret with _ | s <;> rcases clientSecret' with _ | s'
      · rfl
      · cases h
      · cases h
      · rw [Option.map_some, Option.map_some, s.redacted_eq s']
    simp only [Secret.redacted_eq apiKey apiKey', hmap]
  | noAuth => rfl

/-- **The credentials**, too, show nothing of the secrets. -/
theorem AgreesButForSecrets.shownAlike (h : c.AgreesButForSecrets d) {a b : Credential}
    (ha : c.credential = .ok a) (hb : d.credential = .ok b) : a.ShownAlike b := by
  rw [credential_eq_ownCredential] at ha hb
  cases h with
  | basic username password password' =>
    obtain ⟨-, rfl⟩ := BasicConfig.credential_eq_ok.mp ha
    obtain ⟨-, rfl⟩ := BasicConfig.credential_eq_ok.mp hb
    exact Credential.shownAlike_basic _ _
  | bearerToken token token' =>
    obtain rfl := Credential.eq_of_bearerConfig ha
    obtain rfl := Credential.eq_of_bearerConfig hb
    exact Credential.shownAlike_supplied _ _
  | iam apiKey apiKey' url clientId scope h =>
    obtain ⟨i, hi, rfl⟩ := Credential.exists_issuer_of_iamConfig ha
    obtain ⟨j, hj, rfl⟩ := Credential.exists_issuer_of_iamConfig hb
    obtain ⟨hiconfig, hiendpoint⟩ := Issuer.of_build hi
    obtain ⟨hjconfig, hjendpoint⟩ := Issuer.of_build hj
    have hendpoint : i.endpoint = j.endpoint := Except.ok.inj (hiendpoint.symm.trans hjendpoint)
    exact Credential.shownAlike_iam hendpoint (by rw [hiconfig, hjconfig])
      (by rw [hiconfig, hjconfig])
  | noAuth =>
    cases ha
    cases hb
    exact ⟨rfl, fun _ => rfl⟩

/-- **When a credential fails**: its configuration is not valid, or there is no endpoint. -/
theorem credential_eq_error_iff {failure : ConfigFailure} : c.credential = .error failure ↔
    c.validate = .error failure ∨
      (∃ u, c.validate = .ok u) ∧ FirstBroken c.endpointRules failure := by
  have hvalidate := c.goesBy_validate
  rw [credential_eq_ownCredential, c.goesBy_ownCredential failure, rules, firstBroken_append,
    hvalidate failure, hvalidate.exists_ok_iff]

/-- **The same failures** are reported of the same stand-ins. -/
theorem credential_eq_error_congr (h : c.masked = d.masked) (failure : ConfigFailure) :
    c.credential = .error failure ↔ d.credential = .error failure := by
  have hvalidate : c.validate = d.validate := by rw [← c.validate_masked, h, d.validate_masked]
  have hendpoint : c.endpointRules = d.endpointRules := by
    cases agreesButForSecrets_of_masked_eq h <;> rfl
  rw [credential_eq_error_iff, credential_eq_error_iff, hvalidate, hendpoint]

end AuthConfig

/-! ## Two lists of properties -/

namespace Properties

open AuthConfig (ofProperties ofProperties_masked agreesButForSecrets_of_masked_eq
  credential_eq_error_congr)

variable {ps qs : Properties}

/-- **Pairs that differ in a secret at most**, which is empty in both or in neither, and has a stray
end in both or in neither. -/
inductive PairAlike : String × String → String × String → Prop
  | same (p : String × String) : PairAlike p p
  | secret {name value value' : String} (hname : name ∈ secretNames)
      (hempty : value = "" ↔ value' = "")
    (hends : HasStrayEnd value ↔ HasStrayEnd value') : PairAlike (name, value) (name, value')

/-- **Properties that differ in secrets at most.** -/
def DifferInSecrets (ps qs : Properties) : Prop := List.Forall₂ PairAlike ps qs

/-- **The same stand-ins** are put in place of both. -/
theorem DifferInSecrets.masked_eq (h : ps.DifferInSecrets qs) : ps.masked = qs.masked := by
  induction h with
  | nil => rfl
  | cons hpair _ ih =>
    rw [masked, masked, List.map_cons, List.map_cons, ← masked, ← masked, ih]
    cases hpair with
    | same p => rfl
    | secret hname hempty hends =>
      simp only [maskedValue, if_pos hname, standIn_congr hempty hends]

/-- **Shown alike.** Let two lists of properties differ in their secrets at most, of which each is
empty in both lists or in neither, and has a stray end in both or in neither. Then they fail alike,
both when a configuration is read from them and when a credential is built of it: the failures are
the same, in all that they tell. And where they do not fail, the configurations are of one kind,
agree in all parts that are no secrets and are shown with the same text, and so are the
credentials. -/
theorem shown_alike (h : ps.DifferInSecrets qs) :
    (∀ failure, ofProperties ps = .error failure ↔ ofProperties qs = .error failure) ∧
      (∀ failure, ps.credential = .error failure ↔ qs.credential = .error failure) ∧
      (∀ c d, ofProperties ps = .ok c → ofProperties qs = .ok d →
        c.AgreesButForSecrets d ∧ c.text = d.text) ∧
      ∀ a b, ps.credential = .ok a → qs.credential = .ok b → a.ShownAlike b := by
  have hmasked : AuthConfig.masked <$> ofProperties ps = AuthConfig.masked <$> ofProperties qs := by
    rw [← ofProperties_masked, h.masked_eq, ofProperties_masked]
  have hcredential (rs : Properties) : rs.credential = ofProperties rs >>= AuthConfig.credential :=
    rfl
  rw [hcredential, hcredential]
  rcases hps : ofProperties ps with f | c <;> rcases hqs : ofProperties qs with g | d <;>
    rw [hps, hqs] at hmasked
  · obtain rfl : f = g := Except.error.inj hmasked
    exact ⟨fun _ => .rfl, fun _ => .rfl, fun _ _ h => (nomatch h), fun _ _ h => (nomatch h)⟩
  · cases hmasked
  · cases hmasked
  · have hcd : c.masked = d.masked := Except.ok.inj hmasked
    have hagrees := agreesButForSecrets_of_masked_eq hcd
    refine ⟨fun _ => ⟨nofun, nofun⟩, credential_eq_error_congr hcd, ?_,
      fun _ _ => hagrees.shownAlike⟩
    rintro _ _ ⟨⟩ ⟨⟩
    exact ⟨hagrees, hagrees.text_eq⟩

/-- Properties for one user, with a password. -/
def ofUser (password : String) : Properties :=
  [("AUTH_TYPE", "basic"), ("USERNAME", "user"), ("PASSWORD", password)]

/-- **Other passwords** of the same user are shown alike, and are refused alike when their ends are
stray. -/
theorem shown_alike_of_other_password :
    (∃ c d, ofProperties (ofUser "hunter2") = .ok c ∧ ofProperties (ofUser "swordfish") = .ok d ∧
        c ≠ d ∧ c.text = d.text) ∧
      (ofUser "\"").credential = .error (.badCredentialFormat "password") ∧
      (ofUser "hunter2\x7d").credential = .error (.badCredentialFormat "password") := by
  have hother {s t : String} (hempty : s = "" ↔ t = "") (hends : HasStrayEnd s ↔ HasStrayEnd t) :
      (ofUser s).DifferInSecrets (ofUser t) :=
    .cons (.same _) (.cons (.same _) (.cons (.secret (by decide) hempty hends) .nil))
  have hfine : (ofUser "hunter2").DifferInSecrets (ofUser "swordfish") :=
    hother (by decide) (by rw [← hasStrayDelimiter_iff, ← hasStrayDelimiter_iff]; decide +kernel)
  have hstray : (ofUser "\"").DifferInSecrets (ofUser "hunter2\x7d") :=
    hother (by decide) (by rw [← hasStrayDelimiter_iff, ← hasStrayDelimiter_iff]; decide +kernel)
  have hone : ofProperties (ofUser "hunter2") = .ok (.basic ⟨"user", ⟨"hunter2"⟩⟩) :=
    eq_ok_of_toOption (by decide +kernel)
  have htwo : ofProperties (ofUser "swordfish") = .ok (.basic ⟨"user", ⟨"swordfish"⟩⟩) :=
    eq_ok_of_toOption (by decide +kernel)
  have hrefused : (ofUser "\"").credential = .error (.badCredentialFormat "password") := by
    decide +kernel
  obtain ⟨-, -, hsame, -⟩ := shown_alike hfine
  obtain ⟨-, hfail, -⟩ := shown_alike hstray
  exact ⟨⟨_, _, hone, htwo, by decide, (hsame _ _ hone htwo).2⟩, hrefused, (hfail _).mp hrefused⟩

end Properties

end Outbound
