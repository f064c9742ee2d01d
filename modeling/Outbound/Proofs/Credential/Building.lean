import Outbound.Authenticator.Credential
import Outbound.Proofs.Checks
import Outbound.Proofs.Encoding.Base64
import Outbound.Proofs.Text.Utf8

/-!
# Building credentials

A credential is built from a configuration alone: it takes no transport and no session, so that
nothing can be sent. Whether it can be built is told by the rules of the configuration.

* **rules** — `AuthConfig.rules` lists what must hold of each kind, in the order in which it is
  checked;
* **checks** — `goesBy_validate` for what configurations are validated for, `goesBy_ownCredential`
  for what building adds: the endpoint of an issuer, and nothing for the other kinds, as a basic
  value can always stand in a header (`basicValue_eq_ok`);
* **ways** — validating once more changes nothing (`credential_eq_ownCredential`), and what is put
  together from parts or from properties is valid (`Assembled.validate`).
-/

namespace Outbound

open Outbound.Encoding Outbound.Text

/-! ## Values of the basic scheme -/

theorem all_isLegal_encode (padded : Bool) (bs : List UInt8) :
    (Utf8.encode (Base64.encode .standard padded bs)).all HeaderValue.isLegal = true := by
  obtain ⟨k, hk⟩ := Base64.exists_encode_eq (a := .standard) padded bs
  have hsymbol : ∀ n < 64, (String.utf8EncodeChar (Base64.Alphabet.symbol .standard n)).all
      HeaderValue.isLegal = true := by decide
  rw [hk, Utf8.encode, List.all_flatMap, List.all_eq_true]
  intro c hc
  rcases List.mem_append.mp hc with hc | hc
  · obtain ⟨n, hn, rfl⟩ := Base64.exists_of_mem_encode hc
    exact hsymbol n hn
  · obtain rfl := List.eq_of_mem_replicate hc
    decide

/-- **Any user name and password** can be written into a header, as they stand there in base 64. -/
theorem basicValue_eq_ok (username password : String) :
    basicValue username password =
      .ok (.ofText ("Basic " ++ basicCredentials username password)) := by
  have hscheme : (Utf8.bytes "Basic ").all HeaderValue.isLegal = true := by decide
  have hlegal : (Utf8.bytes ("Basic " ++ basicCredentials username password)).all
      HeaderValue.isLegal = true := by
    rw [Utf8.bytes_append, List.all_append, hscheme, basicCredentials, Utf8.bytes_ofList,
      all_isLegal_encode]
    rfl
  rw [basicValue, authorizationValue, HeaderValue.ofString?, HeaderValue.parse?, if_pos hlegal]
  rfl

/-! ## Rules -/

/-- **A stray end**: a brace or a double quote at the front or at the end. -/
def HasStrayEnd (s : String) : Prop :=
  ∃ c ∈ ['\x7b', '\x7d', '"'], [c] <+: s.toList ∨ [c] <:+ s.toList

/-- **The rules for a credential**: there is one, and it has no stray end. -/
def credentialRules (kind : AuthType) (property value : String) : List Rule :=
  [.demand (value ≠ "") (.missingProperty kind.label property),
    .demand (¬ HasStrayEnd value) (.badCredentialFormat property)]

/-- **Client credentials are paired**: neither is there, or both are and neither is empty. -/
def IamConfig.Paired (c : IamConfig) : Prop :=
  c.clientId = none ∧ c.clientSecret = none ∨
    ∃ id secret, c.clientId = some id ∧ c.clientSecret = some secret ∧ id ≠ "" ∧ secret.exposed ≠ ""

/-- **The rule for a URL**: the text is that of one. -/
def urlRule (s : String) : Rule :=
  fun e => ∃ reason, Url.parse s = .error reason ∧ e = .invalidUrl s reason

namespace AuthConfig

/-- What a configuration is validated for. -/
def validityRules : AuthConfig → List Rule
  | .basic c => credentialRules .basic "username" c.username ++
      credentialRules .basic "password" c.password.exposed
  | .bearerToken c =>
    [.demand (c.token.exposed ≠ "") (.missingProperty AuthType.bearerToken.label "token")]
  | .iam c => credentialRules .iam "apikey" c.apiKey.exposed ++
      [.demand c.Paired .incompleteClientCredentials]
  | .noAuth => []

/-- What else is needed to build a credential: an issuer needs an endpoint. -/
def endpointRules : AuthConfig → List Rule
  | .iam c => [urlRule (IamConfig.endpointText c.url)]
  | .basic _ | .bearerToken _ | .noAuth => []

/-- **The rules of a configuration**, in order. -/
def rules (c : AuthConfig) : List Rule := c.validityRules ++ c.endpointRules

end AuthConfig

/-! ## Checks -/

theorem hasStrayDelimiter_iff {s : String} : hasStrayDelimiter s = true ↔ HasStrayEnd s := by
  have hstray (end? : Option Char) : (end?.map isStrayDelimiter).getD false = true ↔
      ∃ c ∈ ['\x7b', '\x7d', '"'], end? = some c := by
    cases end? <;> simp [isStrayDelimiter, or_assoc]
  rw [hasStrayDelimiter, Bool.or_eq_true, hstray, hstray, HasStrayEnd]
  simp only [List.singleton_prefix_iff_head?_eq_some, List.singleton_suffix_iff_getLast?_eq_some,
    and_or_left, exists_or]

theorem goesBy_checkCredential (kind : AuthType) (property value : String) :
    GoesBy (credentialRules kind property value) (checkCredential kind property value) := by
  have hpresent : GoesBy [.demand (value ≠ "") (.missingProperty kind.label property)]
      (if value.isEmpty then .error (.missingProperty kind.label property) else .ok ()) := by
    refine .demand (fun h => ⟨(), if_neg ?_⟩) (fun h => if_pos ?_)
    · rwa [String.isEmpty_iff]
    · rwa [String.isEmpty_iff, ← Classical.not_not (a := value = "")]
  have hends : GoesBy [.demand (¬ HasStrayEnd value) (.badCredentialFormat property)]
      (if hasStrayDelimiter value then .error (.badCredentialFormat property) else .ok ()) := by
    refine .demand (fun h => ⟨(), if_neg ?_⟩) (fun h => if_pos ?_)
    · rwa [hasStrayDelimiter_iff]
    · exact hasStrayDelimiter_iff.mpr (Classical.not_not.mp h)
  have hboth := hpresent.bind fun _ _ => hends
  rw [checkCredential]
  by_cases hempty : value.isEmpty = true
  · rw [if_pos hempty] at hboth ⊢
    exact hboth
  · rw [if_neg hempty] at hboth ⊢
    exact hboth

theorem goesBy_parseUrl (s : String) : GoesBy [urlRule s] (parseUrl s) := by
  intro e
  rw [parseUrl]
  constructor
  · intro h
    cases hparse : Url.parse s with
    | ok url =>
      rw [hparse] at h
      cases h
    | error reason =>
      rw [hparse] at h
      exact .here ⟨reason, hparse, (Except.error.inj h).symm⟩
  · intro h
    cases h with
    | here broken =>
      obtain ⟨reason, hparse, rfl⟩ := broken
      rw [hparse]
    | later _ rest => cases rest

theorem IamConfig.goesBy_paired (c : IamConfig) :
    GoesBy [.demand c.Paired .incompleteClientCredentials]
      (match c.clientId, c.clientSecret with
        | some id, some secret =>
          if id.isEmpty || secret.exposed.isEmpty then .error .incompleteClientCredentials
          else .ok ()
        | none, none => .ok ()
        | _, _ => .error .incompleteClientCredentials : Except ConfigFailure Unit) := by
  rw [Paired]
  refine .demand ?_ fun h => ?_
  · rintro (⟨hid, hsecret⟩ | ⟨id, secret, hid, hsecret, hid', hsecret'⟩)
    · exact ⟨(), by simp only [hid, hsecret]⟩
    · exact ⟨(), by simp [hid, hsecret, hid', hsecret']⟩
  · rcases hid : c.clientId with _ | id <;> rcases hsecret : c.clientSecret with _ | secret
    · exact absurd (.inl ⟨hid, hsecret⟩) h
    · rfl
    · rfl
    · refine if_pos ?_
      rw [hid, hsecret] at h
      simpa [Classical.or_iff_not_imp_left] using h

namespace AuthConfig

/-- **Validating** goes by the rules for validity. -/
theorem goesBy_validate (c : AuthConfig) : GoesBy c.validityRules c.validate := by
  cases c with
  | basic c =>
    exact (goesBy_checkCredential _ _ _).bind fun _ _ => goesBy_checkCredential _ _ _
  | bearerToken c =>
    refine .demand (fun h => ⟨(), if_neg ?_⟩) (fun h => if_pos ?_)
    · rwa [String.isEmpty_iff]
    · rwa [String.isEmpty_iff, ← Classical.not_not (a := c.token.exposed = "")]
  | iam c => exact (goesBy_checkCredential _ _ _).bind fun _ _ => c.goesBy_paired
  | noAuth => exact .ok ()

/-- **Building** goes by all rules. -/
theorem goesBy_ownCredential (c : AuthConfig) : GoesBy c.rules c.ownCredential := by
  have hvalidate := c.goesBy_validate
  rw [rules]
  cases c with
  | basic c =>
    rw [endpointRules, List.append_nil]
    refine hvalidate.bind_ok fun _ => ?_
    rw [basicValue_eq_ok]
    exact ⟨_, rfl⟩
  | bearerToken c =>
    rw [endpointRules, List.append_nil]
    exact hvalidate.bind_ok fun _ => ⟨_, rfl⟩
  | iam c =>
    refine .map _ (hvalidate.bind fun _ _ => (goesBy_parseUrl _).bind_ok fun endpoint => ?_)
    rcases c.clientId with _ | id
    · exact ⟨_, rfl⟩
    · rcases c.clientSecret with _ | secret
      · exact ⟨_, rfl⟩
      · simp only [basicValue_eq_ok]
        exact ⟨_, rfl⟩
  | noAuth => exact .ok _

/-- **Validating first** changes nothing: each kind does it again when it is built on its own. -/
theorem credential_eq_ownCredential (c : AuthConfig) : c.credential = c.ownCredential := by
  rw [credential]
  cases hvalidate : c.validate with
  | ok _ => rfl
  | error failure =>
    have hbroken : FirstBroken c.rules failure :=
      firstBroken_append.mpr (.inl ((c.goesBy_validate failure).mp hvalidate))
    exact ((c.goesBy_ownCredential failure).mpr hbroken).symm

/-! ## Ways to a configuration -/

/-- **Assembled**: put together from parts or from properties, and not just read or filled in. -/
inductive Assembled : AuthConfig → Prop
  | basic {username password c} (h : BasicConfig.build username password = .ok c) :
    Assembled (.basic c)
  | bearerToken {token c} (h : BearerConfig.build token = .ok c) : Assembled (.bearerToken c)
  | iam {apiKey url clientId clientSecret scope c}
    (h : IamConfig.build apiKey url clientId clientSecret scope = .ok c) : Assembled (.iam c)
  | properties {ps c} (h : ofProperties ps = .ok c) : Assembled c

theorem validate_basic {username : Option String} {password : Option Secret} {c : BasicConfig}
    (h : BasicConfig.build username password = .ok c) : (basic c).validate = .ok () := by
  obtain ⟨_, hvalid, ⟨⟩⟩ := bind_eq_ok.mp h
  exact hvalid

theorem validate_bearerToken {token : Secret} {c : BearerConfig}
    (h : BearerConfig.build token = .ok c) : (bearerToken c).validate = .ok () := by
  obtain ⟨_, hvalid, ⟨⟩⟩ := bind_eq_ok.mp h
  exact hvalid

theorem validate_iam {apiKey clientSecret : Option Secret} {url clientId scope : Option String}
    {c : IamConfig} (h : IamConfig.build apiKey url clientId clientSecret scope = .ok c) :
    (iam c).validate = .ok () := by
  obtain ⟨_, -, hbuild⟩ := bind_eq_ok.mp h
  obtain ⟨_, hvalid, ⟨⟩⟩ := bind_eq_ok.mp hbuild
  exact hvalid

/-- **Properties** are passed on to what puts the parts of their kind together. -/
theorem validate_of_ofProperties {ps : Properties} {c : AuthConfig} (h : ofProperties ps = .ok c) :
    c.validate = .ok () := by
  obtain ⟨kind, -, h⟩ := bind_eq_ok.mp h
  cases kind with
  | basic =>
    obtain ⟨_, hbuild, ⟨⟩⟩ := bind_eq_ok.mp h
    exact validate_basic hbuild
  | bearerToken =>
    obtain ⟨_, hbuild, ⟨⟩⟩ := bind_eq_ok.mp h
    exact validate_bearerToken hbuild
  | iam =>
    obtain ⟨_, hbuild, ⟨⟩⟩ := bind_eq_ok.mp h
    exact validate_iam hbuild
  | noAuth =>
    cases h
    rfl

/-- **Whatever is assembled is valid.** -/
theorem Assembled.validate {c : AuthConfig} (h : c.Assembled) : c.validate = .ok () := by
  cases h with
  | basic h => exact validate_basic h
  | bearerToken h => exact validate_bearerToken h
  | iam h => exact validate_iam h
  | properties h => exact validate_of_ofProperties h

/-- **Built by the rules.** A credential is built from any configuration exactly if all of its rules
hold, and otherwise the first broken rule is reported, whether it is validated first or built as its
kind is built on its own. What was assembled has been validated before. -/
theorem built_by_rules (c : AuthConfig) :
    c.credential = c.ownCredential ∧
      ((∃ credential, c.credential = .ok credential) ↔ ∀ rule ∈ c.rules, rule.Holds) ∧
      (∀ failure, c.credential = .error failure ↔ FirstBroken c.rules failure) ∧
      (c.Assembled → c.validate = .ok ()) := by
  have hown := c.credential_eq_ownCredential
  have hgoes := c.goesBy_ownCredential
  rw [← hown] at hgoes
  exact ⟨hown, hgoes.exists_ok_iff, hgoes, Assembled.validate⟩

/-- **A client without a secret** is reported although there is an API key; a user name with a brace
inside and a password, put together from these parts, are valid. -/
theorem built_by_rules_of_unpaired :
    FirstBroken (iam ⟨⟨"key"⟩,
        ⟨"https", some ⟨"", "", .name "iam.example.com", none⟩, .segments [""], none, none⟩,
        some "id", none, none⟩).rules .incompleteClientCredentials ∧
      (basic ⟨"us\x7ber", ⟨"pass"⟩⟩).validate = .ok () := by
  have hbuild : BasicConfig.build (some "us\x7ber") (some ⟨"pass"⟩) = .ok ⟨"us\x7ber", ⟨"pass"⟩⟩ :=
    rfl
  constructor
  · obtain ⟨-, -, herror, -⟩ := built_by_rules _
    exact (herror _).mp rfl
  · obtain ⟨-, -, -, hvalid⟩ := built_by_rules _
    exact hvalid (.basic hbuild)

end AuthConfig

end Outbound
