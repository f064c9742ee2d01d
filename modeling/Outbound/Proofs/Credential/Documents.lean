import Outbound.Credential.Document
import Outbound.Proofs.Checks
import Outbound.Proofs.Json.Roundtrip
import Outbound.Proofs.Url.Reading

/-!
# Documents of configurations

A configuration is read again from the text of its document, whatever characters its parts have.

* **members** — the kind and the parts are taken up as they were written (`takesUp_document`);
* **parts** — those of a kind make up the configuration (`ofMembers_parts`), an absent one written
  as `null`;
* **documents** — `reads_document` puts the two together; `written_and_read_again` adds what the
  document is to any other reader of JSON;
* **URLs** — that of a configuration is read back from its own text if it was read from some text
  and is legible (`parse_url_text`).
-/

namespace Outbound

open Outbound.Json Outbound.Json.Reader Outbound.Text

/-! ## Members -/

section Members

variable {kind : Option AuthType} {members parts : List (String × Value)}

theorem find?_label (kind : AuthType) :
    AuthType.all.find? (fun other => other.label == kind.label) = some kind := by
  cases kind <;> decide

/-- **A label** is read as its kind. -/
theorem reads_kindReader (kind : AuthType) :
    Reads kindReader (renderString kind.label) kind := by
  have htext : Reads (Reader.text "variant identifier") (renderString kind.label) kind.label := by
    refine .peek_bind (by decide) ?_
    rw [if_pos rfl]
    exact .bind_cons (reads_skip (by decide)) (reads_string kind.label)
  rw [kindReader, ← List.append_nil (renderString kind.label)]
  refine htext.bind ?_
  rw [find?_label]
  exact .pure kind

/-- **The member that names the kind**, if none was there before. -/
theorem reads_kindMember (kind : AuthType) :
    Reads (documentMember kindMember (none, members)) (':' :: (Value.string kind.label).render)
      (some kind, members) := by
  rw [documentMember, if_pos rfl]
  have hfield : Reads (Reader.field kindMember none kindReader)
      (':' :: renderString kind.label) (some kind) := by
    rw [Reader.field]
    exact .bind_cons (reads_expect (by decide)) (((reads_kindReader kind).within kindMember).map _)
  exact hfield.map _

/-- **A part** is kept as it is. -/
theorem reads_partMember {name : String} {v : Value} (hname : name ≠ kindMember)
    (hv : Wordy (nestingLimit - 1) v) :
    Reads (documentMember name (kind, members)) (':' :: v.render) (kind, (name, v) :: members) := by
  rw [documentMember, if_neg hname]
  exact .bind_cons (reads_expect (by decide)) ((reads_value hv).map _)

/-- **All parts** are kept, the last one first. -/
theorem takesUp_parts (h : ∀ part ∈ parts, part.1 ≠ kindMember ∧ Wordy (nestingLimit - 1) part.2) :
    TakesUp documentMember (kind, members) parts (kind, parts.reverse ++ members) := by
  induction parts generalizing members with
  | nil => exact .nil _
  | cons part parts ih =>
    obtain ⟨hname, hv⟩ := h part (List.mem_cons_self ..)
    rw [List.reverse_cons, List.append_assoc]
    exact .cons (reads_partMember hname hv) (ih fun p hp => h p (List.mem_cons_of_mem part hp))

end Members

/-! ## Parts -/

theorem wordy_optionalDocument (n : Nat) (s : Option String) : Wordy n (optionalDocument s) := by
  cases s with
  | none => exact .null
  | some s => exact .string s

/-- **A part that was read** fills its slot. -/
theorem fill_of_ok {α : Type} (name : String) {read : Value → Reading α} {v : Value} {a : α}
    (h : read v = .ok a) : fill name none read v = pure (some a) := by
  rw [fill, h]
  rfl

theorem readUrl_of_parse {url : Url} (h : Url.parse url.text = .ok url) :
    readUrl (.string url.text) = .ok url := by
  have hstring : readString "a string representing an URL" (.string url.text) = pure url.text := rfl
  rw [readUrl, hstring, pure_bind, h]

/-- **An optional string** is written as `null` if it is absent, and so it is read. -/
theorem readOptional_string (s : Option String) :
    readOptional (readString "a string") (optionalDocument s) = .ok s := by
  cases s <;> rfl

/-- An optional secret is written as its text is. -/
theorem readOptional_secret (s : Option Secret) :
    readOptional readSecret (optionalDocument (s.map (·.exposed))) = .ok s := by
  cases s <;> rfl

namespace AuthConfig

variable (c : AuthConfig)

/-- **The parts of a configuration** have names of their own, and no numbers in them. -/
theorem wordy_parts (n : Nat) : ∀ part ∈ c.parts, part.1 ≠ kindMember ∧ Wordy n part.2 := by
  cases c with
  | basic c => simp [parts, kindMember, Secret.document, Wordy.string]
  | bearerToken c => simp [parts, kindMember, Secret.document, Wordy.string]
  | iam c => simp [parts, kindMember, Secret.document, Wordy.string, wordy_optionalDocument]
  | noAuth => simp [parts]

/-- **The members of a document** are its kind and its parts. -/
theorem takesUp_document :
    TakesUp documentMember (none, []) ((kindMember, .string c.kind.label) :: c.parts)
      (some c.kind, c.parts.reverse) := by
  have hparts : TakesUp documentMember (some c.kind, []) c.parts
      (some c.kind, c.parts.reverse ++ []) :=
    takesUp_parts (c.wordy_parts (nestingLimit - 1))
  rw [List.append_nil] at hparts
  exact .cons (reads_kindMember c.kind) hparts

/-- **The parts make up the configuration**, if its URL is read back from its text. -/
theorem ofMembers_parts (h : ∀ i, c = .iam i → Url.parse i.url.text = .ok i.url) :
    (shapeOf c.kind).ofMembers c.parts = .ok c := by
  cases c with
  | basic c => rfl
  | bearerToken c => rfl
  | noAuth => rfl
  | iam c =>
    have hkey := fill_of_ok "apikey" (rfl : readSecret c.apiKey.document = .ok c.apiKey)
    have hurl := fill_of_ok "url" (readUrl_of_parse (h c rfl))
    have hid := fill_of_ok "client_id" (readOptional_string c.clientId)
    have hsecret := fill_of_ok "client_secret" (readOptional_secret c.clientSecret)
    have hscope := fill_of_ok "scope" (readOptional_string c.scope)
    simp only [Shape.ofMembers, parts, kind, shapeOf, List.foldlM_cons, List.foldlM_nil,
      Draft.takeIam, hkey, hurl, hid, hsecret, hscope, pure_bind]
    rfl

/-! ## Documents -/

/-- **A document is read** as the configuration that it was written for. -/
theorem reads_document (h : ∀ i, c = .iam i → Url.parse i.url.text = .ok i.url) :
    Reads reader c.document.render c := by
  have hmembers := reads_members c.takesUp_document
  have hparts : Reads (lift ((shapeOf c.kind).ofMembers c.parts.reverse.reverse)) [] c := by
    rw [List.reverse_reverse, c.ofMembers_parts h]
    exact .pure c
  rw [document, render_object]
  refine .peek_bind (by decide) ?_
  rw [if_pos rfl, ← List.append_nil (insideMembers _)]
  exact .bind_cons (reads_skip (by decide)) (hmembers.bind hparts)

/-- **The document as a value**, which any reader of JSON may look into. -/
theorem wordy_document : Wordy nestingLimit c.document := by
  refine .object fun entry hentry => ?_
  rcases List.mem_cons.mp hentry with rfl | hpart
  · exact .string c.kind.label
  · exact (c.wordy_parts _ entry hpart).2

/-- **Only the kind** stands under the name of the kind. -/
theorem mem_document_kind (v : Value) :
    (kindMember, v) ∈ (kindMember, Value.string c.kind.label) :: c.parts ↔
      v = .string c.kind.label := by
  constructor
  · intro h
    rcases List.mem_cons.mp h with h | h
    · exact congrArg Prod.snd h
    · exact absurd rfl (c.wordy_parts 0 _ h).1
  · rintro rfl
    exact List.mem_cons_self ..

/-- **Written and read again.** Whatever characters its parts have and whichever of them are there,
a configuration is read again from the text of its document, if its URL is read back from its own
text. As a value, the document is an object whose one member `auth_type` is the label of the
kind. -/
theorem written_and_read_again (c : AuthConfig)
    (h : ∀ i, c = .iam i → Url.parse i.url.text = .ok i.url) :
    ofJson c.document.text = .ok c ∧
      ∃ members, Reader.run (Reader.value nestingLimit) (Utf8.bytes c.document.text) =
          .ok (.object members) ∧
        ∀ v, (kindMember, v) ∈ members ↔ v = .string c.kind.label := by
  rw [ofJson, Value.text, Utf8.bytes_ofList]
  exact ⟨run_of_reads (c.reads_document h), _, run_of_reads (reads_value c.wordy_document),
    c.mem_document_kind⟩

/-- **The URL of a configuration** that was read from some text is read back from its own, if it is
legible. -/
theorem parse_url_text {c : AuthConfig}
    (h : ∀ i, c = .iam i → (∃ s, Url.parse s = .ok i.url) ∧ i.url.Legible) :
    ∀ i, c = .iam i → Url.parse i.url.text = .ok i.url := by
  intro i hi
  obtain ⟨⟨s, hs⟩, hlegible⟩ := h i hi
  exact Url.parse_text hs hlegible

end AuthConfig

/-- A configuration with quotes, backslashes and controls in it, and with characters of every
length. -/
def IamConfig.motley : IamConfig :=
  ⟨⟨"\"\\/\x00\x08\x0c\n\r\t\x1f\x7f"⟩,
    ⟨"https", some ⟨"", "", .name "iam.example.com", none⟩, .segments ["identity", "token"],
      none, none⟩,
    some "é漢😀", none, some ""⟩

namespace AuthConfig

/-- **A motley configuration**, one optional part of which is absent and another empty. -/
theorem written_and_read_again_of_motley :
    Url.parse IamConfig.motley.url.text = .ok IamConfig.motley.url ∧
      ofJson (AuthConfig.iam .motley).document.text = .ok (.iam .motley) := by
  have hurl : ∀ i, AuthConfig.iam .motley = .iam i → Url.parse i.url.text = .ok i.url := by
    refine parse_url_text fun i hi => ?_
    obtain rfl := AuthConfig.iam.inj hi
    refine ⟨⟨" HTTPS://iam.Example.com:443/identity/./token", eq_ok_of_toOption ?_⟩,
      Url.legible_of_plain (by decide) ?_⟩
    · decide +kernel
    · rintro _ ⟨⟩ _ ⟨⟩
      exact ⟨by decide, by decide, by decide +kernel⟩
  exact ⟨hurl .motley rfl, (written_and_read_again (.iam .motley) hurl).1⟩

end AuthConfig

end Outbound
