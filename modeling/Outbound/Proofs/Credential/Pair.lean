import Outbound.Proofs.Credential.Building

/-!
# The pair behind a basic value

A basic value is written for a user name and a password. Whoever receives it reads it the other way
round: the scheme, base 64, UTF-8, and the user name up to the first colon.

* **reading** — `HeaderValue.pair?` is this way back; it looks at the bytes of the value only;
* **the first colon** — parts the two, unless the user name has one itself (`partAtColon?_append`);
* **recovery** — `BasicConfig.recovered_from_value`: every valid configuration has a credential, the
  text in its value is the only one that is read as this pair, and so no other pair has the value.
-/

namespace Outbound

open Outbound.Encoding Outbound.Text

/-! ## The way back -/

/-- **Parting at the first colon**, if there is one. -/
def partAtColon? (cs : List Char) : Option (String × String) :=
  match cs.dropWhile (· != ':') with
  | [] => none
  | _ :: password => some (String.ofList (cs.takeWhile (· != ':')), String.ofList password)

/-- **Reading a basic value**: the user name and the password that it holds. -/
def HeaderValue.pair? (v : HeaderValue) : Option (String × String) := do
  let text ← Utf8.string? v.bytes
  let credentials ← text.toList.dropPrefix? "Basic ".toList
  let bytes ← Base64.decodePadded .standard credentials
  let pair ← Utf8.string? bytes
  partAtColon? pair.toList

/-- It does not matter whether a value is sensitive. -/
theorem HeaderValue.pair?_congr {v w : HeaderValue} (h : v.bytes = w.bytes) :
    v.pair? = w.pair? := by
  rw [pair?, pair?, h]

/-- **The first colon** parts what is joined by one. -/
theorem partAtColon?_append {username : String} (h : ':' ∉ username.toList) (password : String) :
    partAtColon? (username ++ ":" ++ password).toList = some (username, password) := by
  have hfront : ∀ c ∈ username.toList, (c != ':') = true := by
    intro c hc
    rw [bne_iff_ne]
    rintro rfl
    exact h hc
  have hback : ∀ c ∈ (':' :: password.toList).head?, (c != ':') = false := by
    rintro _ ⟨⟩
    rfl
  have hjoined : (username ++ ":" ++ password).toList =
      username.toList ++ ':' :: password.toList := by
    simp
  rw [partAtColon?, hjoined, dropWhile_append_of_stop hfront hback,
    takeWhile_append_of_stop hfront hback]
  simp only [String.ofList_toList]

/-! ## Values of the basic scheme -/

/-- The value of a user name and a password. -/
def BasicConfig.value (c : BasicConfig) : HeaderValue :=
  .ofText ("Basic " ++ basicCredentials c.username c.password.exposed)

/-- The bytes that are written in base 64. -/
theorem bytes_joined (username password : String) :
    Utf8.bytes (username ++ ":" ++ password) =
      Utf8.bytes username ++ 0x3A :: Utf8.bytes password := by
  have hcolon : Utf8.bytes ":" = [0x3A] := rfl
  rw [Utf8.bytes_append, Utf8.bytes_append, hcolon, List.append_assoc, List.singleton_append]

namespace BasicConfig

variable {c d : BasicConfig}

/-- **A credential** is built from every valid configuration, and from no other. -/
theorem credential_eq_ok {credential : Credential} :
    c.credential = .ok credential ↔ c.validate = .ok () ∧ credential = .basic c.value := by
  rw [BasicConfig.credential, basicValue_eq_ok]
  cases c.validate with
  | ok _ =>
    constructor
    · rintro ⟨⟩
      exact ⟨rfl, rfl⟩
    · rintro ⟨-, rfl⟩
      rfl
  | error failure =>
    refine ⟨?_, ?_⟩
    · rintro ⟨⟩
    · rintro ⟨⟨⟩, -⟩

/-- **Reading the value back**, as far as base 64 and UTF-8 go. -/
theorem pair?_value_eq (c : BasicConfig) :
    c.value.pair? = partAtColon? (c.username ++ ":" ++ c.password.exposed).toList := by
  have hscheme : ("Basic " ++ basicCredentials c.username c.password.exposed).toList =
      "Basic ".toList ++ Base64.encode .standard true
        (Utf8.bytes (c.username ++ ":" ++ c.password.exposed)) := by
    simp only [basicCredentials, String.toList_append, String.toList_ofList]
  rw [HeaderValue.pair?, value, HeaderValue.ofText, Utf8.string?_bytes]
  simp only [Option.bind_eq_bind, Option.bind_some, hscheme]
  rw [List.dropPrefix?_append_of_beq _ (beq_self_eq_true _)]
  simp only [Option.bind_some, Base64.decodePadded_encode, Utf8.string?_bytes]

/-- **The pair is recovered** if the user name has no colon. -/
theorem pair?_value (h : ':' ∉ c.username.toList) :
    c.value.pair? = some (c.username, c.password.exposed) := by
  rw [pair?_value_eq, partAtColon?_append h]

/-- **Different pairs** have different values. -/
theorem eq_of_bytes_value (hc : ':' ∉ c.username.toList) (hd : ':' ∉ d.username.toList)
    (h : d.value.bytes = c.value.bytes) : d = c := by
  have hpair := HeaderValue.pair?_congr h
  rw [pair?_value hc, pair?_value hd] at hpair
  obtain ⟨husername, hpassword⟩ := Prod.mk.inj (Option.some.inj hpair)
  obtain ⟨username, ⟨password⟩⟩ := c
  obtain ⟨username', ⟨password'⟩⟩ := d
  subst husername hpassword
  rfl

/-- **The pair behind the value.** From every valid user name and password a credential is built, on
its own or as any other kind is. Behind the name of the scheme its value has the one text in base 64
that is read, strictly and with padding, as the bytes of the two with a colon in between. If there
is no colon in the user name, they are told from the value by its first colon, and no others without
one have this value. -/
theorem recovered_from_value (c : BasicConfig) (h : c.validate = .ok ()) :
    ∃ value, c.credential = .ok (.basic value) ∧
      (AuthConfig.basic c).credential = .ok (.basic value) ∧
      (∃ text, value = .ofText ("Basic " ++ String.ofList text) ∧
        ∀ other, Base64.decodePadded .standard other =
          some (Utf8.bytes c.username ++ 0x3A :: Utf8.bytes c.password.exposed) ↔ other = text) ∧
      (':' ∉ c.username.toList → value.pair? = some (c.username, c.password.exposed)) ∧
      ∀ d value', d.credential = .ok (.basic value') → d ≠ c → ':' ∉ c.username.toList →
        ':' ∉ d.username.toList → value'.bytes ≠ value.bytes := by
  have hcredential : c.credential = .ok (.basic c.value) := credential_eq_ok.mpr ⟨h, rfl⟩
  refine ⟨c.value, hcredential, ?_, ⟨_, rfl, fun other => ?_⟩, pair?_value, ?_⟩
  · exact (AuthConfig.credential_eq_ownCredential _).trans hcredential
  · rw [← bytes_joined, Base64.decodePadded_eq_some_iff]
  · intro d value' hd hne hc hd'
    obtain ⟨-, hvalue⟩ := credential_eq_ok.mp hd
    obtain rfl := Credential.basic.inj hvalue
    exact fun hbytes => hne (eq_of_bytes_value hc hd' hbytes)

/-- **Any characters** may stand in the pair: letters beyond ASCII, a line feed, and in the password
a colon and a control character. -/
theorem recovered_from_value_of_motley :
    let c : BasicConfig := ⟨"Zo\u00eb\nB", ⟨":\x00\u2603"⟩⟩
    c.validate = .ok () ∧
      ∃ value, c.credential = .ok (.basic value) ∧
        value.pair? = some ("Zo\u00eb\nB", ":\x00\u2603") := by
  intro c
  have hvalid : c.validate = .ok () := by decide +kernel
  obtain ⟨value, hcredential, -, -, hpair, -⟩ := recovered_from_value c hvalid
  exact ⟨hvalid, value, hcredential, hpair (by decide)⟩

/-- A colon in the user name is not told from the one behind it. -/
example : (⟨"a:b", ⟨"c"⟩⟩ : BasicConfig).value = (⟨"a", ⟨"b:c"⟩⟩ : BasicConfig).value := by
  decide +kernel

end BasicConfig

end Outbound
