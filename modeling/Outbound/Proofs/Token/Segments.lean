import Outbound.Proofs.Checks
import Outbound.Proofs.Encoding.Base64
import Outbound.Token.Claims

/-!
# The segments of a token

Which texts are tokens, what their claims are, and what is wrong with the others.

* **segments** — a segment `Holds` an object if it spells bytes that are read as that object, and is
  `Faulty` otherwise; `decodeSegment_of_holds` and `decodeSegment_of_faulty` say that reading finds
  this out;
* **tokens** — `Decodes` tells by the parts of a text what comes of it: the number of segments
  counts first, then the header, then the payload, and the signature never;
* **decoding** — goes by this (`decode_eq_iff_decodes`); so the signature may be replaced
  (`decode_append_signature`), and what is encoded is decoded again (`decode_encoded`).
-/

namespace Outbound.Claims

open Outbound.Encoding Outbound.Json Outbound.Text

/-! ## Segments -/

/-- **A segment holds an object**: it spells bytes, with any padding, that are read as the
object. -/
def Holds (cs : List Char) (members : List (String × Value)) : Prop :=
  ∃ bs, Base64.Spells .urlSafe cs bs ∧ Reader.run objectReader bs = .ok members

/-- **What is wrong with a segment**: it spells no bytes, or its bytes are no object. -/
inductive Faulty (segment : Segment) (cs : List Char) : TokenFailure → Prop
  | notBase64 (spells : ∀ bs, ¬ Base64.Spells .urlSafe cs bs) :
      Faulty segment cs (.notBase64 segment)
  | notObject {bs reason} (spells : Base64.Spells .urlSafe cs bs)
    (unread : Reader.run objectReader bs = .error reason) :
    Faulty segment cs (.notObject segment reason)

variable {segment : Segment} {cs : List Char}

/-- Reading a segment that spells bytes is reading these. -/
theorem decodeSegment_of_spells {bs : List UInt8} (h : Base64.Spells .urlSafe cs bs) :
    decodeSegment segment cs =
      (Reader.run objectReader bs).mapError (.notObject segment) := by
  rw [decodeSegment, Base64.decode_dropEndWhile_eq_some_iff.mpr h]
  dsimp only
  cases Reader.run objectReader bs <;> rfl

theorem decodeSegment_of_not_spells (h : ∀ bs, ¬ Base64.Spells .urlSafe cs bs) :
    decodeSegment segment cs = .error (.notBase64 segment) := by
  have hnone : Base64.decode .urlSafe (dropEndWhile (· == '=') cs) = none := by
    refine Option.eq_none_iff_forall_ne_some.mpr fun bs hbs => ?_
    exact h bs (Base64.decode_dropEndWhile_eq_some_iff.mp hbs)
  rw [decodeSegment, hnone]

theorem decodeSegment_of_holds {members : List (String × Value)} (h : Holds cs members) :
    decodeSegment segment cs = .ok members := by
  obtain ⟨bs, hspells, hread⟩ := h
  rw [decodeSegment_of_spells hspells, hread]
  rfl

theorem decodeSegment_of_faulty {failure : TokenFailure} (h : Faulty segment cs failure) :
    decodeSegment segment cs = .error failure := by
  cases h with
  | notBase64 spells => exact decodeSegment_of_not_spells spells
  | notObject spells unread =>
    rw [decodeSegment_of_spells spells, unread]
    rfl

variable (segment cs) in
/-- **A segment** either holds an object or is faulty. -/
theorem holds_or_faulty :
    (∃ members, Holds cs members) ∨ ∃ failure, Faulty segment cs failure := by
  by_cases hspells : ∃ bs, Base64.Spells .urlSafe cs bs
  · obtain ⟨bs, hspells⟩ := hspells
    cases hread : Reader.run objectReader bs with
    | ok members => exact .inl ⟨members, bs, hspells, hread⟩
    | error reason => exact .inr ⟨_, .notObject hspells hread⟩
  · exact .inr ⟨_, .notBase64 (not_exists.mp hspells)⟩

/-! ## Tokens -/

/-- **Three segments**, none of which has a dot in it. -/
structure Parts (cs header payload signature : List Char) : Prop where
  joined : cs = header ++ '.' :: (payload ++ '.' :: signature)
  header : '.' ∉ header
  payload : '.' ∉ payload
  signature : '.' ∉ signature

/-- The claims of a header and a payload. The header has each member as text. -/
def ofMembers (header payload : List (String × Value)) : Claims :=
  ⟨header.map fun (name, v) => (name, textOf v), payload⟩

/-- **Decoding, by the parts of a text.** What is wrong with one part counts only if all is well
with the parts in front of it. -/
inductive Decodes (cs : List Char) : Except TokenFailure Claims → Prop
  | segmentCount (count : cs.count '.' ≠ 2) : Decodes cs (.error (.segmentCount (cs.count '.' + 1)))
  | header {h p s failure} (parts : Parts cs h p s) (faulty : Faulty .header h failure) :
    Decodes cs (.error failure)
  | payload {h p s members failure} (parts : Parts cs h p s) (header : Holds h members)
    (faulty : Faulty .payload p failure) : Decodes cs (.error failure)
  | claims {h p s header payload} (parts : Parts cs h p s) (holdsHeader : Holds h header)
    (holdsPayload : Holds p payload) : Decodes cs (.ok (ofMembers header payload))

theorem splitOn_eq_iff_parts {h p s : List Char} : cs.splitOn '.' = [h, p, s] ↔ Parts cs h p s := by
  rw [splitOn_eq_three_iff]
  constructor
  · rintro ⟨hcs, hh, hp, hs⟩
    exact ⟨hcs, hh, hp, hs⟩
  · rintro ⟨hcs, hh, hp, hs⟩
    exact ⟨hcs, hh, hp, hs⟩

/-- **Two dots** make three segments. -/
theorem exists_parts (h : cs.count '.' = 2) : ∃ header payload signature,
    Parts cs header payload signature := by
  have hlength : (cs.splitOn '.').length = 3 := by rw [length_splitOn, h]
  obtain ⟨header, payload, signature, hsplit⟩ := List.length_eq_three.mp hlength
  exact ⟨header, payload, signature, splitOn_eq_iff_parts.mp hsplit⟩

section Decoding

variable {token : String}

/-- **Decoding three segments**: the header first. -/
theorem decode_of_parts {h p s : List Char} (parts : Parts (trim token.toList) h p s) :
    decode token = (decodeSegment .header h >>= fun header =>
      decodeSegment .payload p >>= fun payload => .ok (ofMembers header payload)) := by
  rw [decode]
  simp only [splitOn_eq_iff_parts.mpr parts]
  rfl

/-- **Any other number** of segments is reported. -/
theorem decode_of_count_ne (h : (trim token.toList).count '.' ≠ 2) :
    decode token = .error (.segmentCount ((trim token.toList).count '.' + 1)) := by
  have hlength := length_splitOn (c := '.') (trim token.toList)
  rw [decode, ← hlength]
  split
  · next hsplit =>
    rw [hsplit] at hlength
    exact absurd (Nat.succ.inj hlength).symm h
  · rfl

theorem decode_of_decodes {result : Except TokenFailure Claims}
    (h : Decodes (trim token.toList) result) : decode token = result := by
  cases h with
  | segmentCount count => exact decode_of_count_ne count
  | header parts faulty =>
    rw [decode_of_parts parts, decodeSegment_of_faulty faulty]
    rfl
  | payload parts header faulty =>
    rw [decode_of_parts parts, decodeSegment_of_holds header]
    change decodeSegment .payload _ >>= _ = _
    rw [decodeSegment_of_faulty faulty]
    rfl
  | claims parts holdsHeader holdsPayload =>
    rw [decode_of_parts parts, decodeSegment_of_holds holdsHeader]
    change decodeSegment .payload _ >>= _ = _
    rw [decodeSegment_of_holds holdsPayload]
    rfl

/-- **Something comes of every text.** -/
theorem exists_decodes (cs : List Char) : ∃ result, Decodes cs result := by
  by_cases hcount : cs.count '.' = 2
  · obtain ⟨h, p, s, parts⟩ := exists_parts hcount
    rcases holds_or_faulty .header h with ⟨header, hheader⟩ | ⟨failure, hheader⟩
    · rcases holds_or_faulty .payload p with ⟨payload, hpayload⟩ | ⟨failure, hpayload⟩
      · exact ⟨_, .claims parts hheader hpayload⟩
      · exact ⟨_, .payload parts hheader hpayload⟩
    · exact ⟨_, .header parts hheader⟩
  · exact ⟨_, .segmentCount hcount⟩

/-- **Decoding goes by the parts** of the text without blanks around it. -/
theorem decode_eq_iff_decodes {result : Except TokenFailure Claims} :
    decode token = result ↔ Decodes (trim token.toList) result := by
  constructor
  · rintro rfl
    obtain ⟨result, h⟩ := exists_decodes (trim token.toList)
    rw [decode_of_decodes h]
    exact h
  · exact decode_of_decodes

end Decoding

/-! ## Signatures -/

/-- **Another signature** leaves the other parts as they are. -/
theorem Parts.replace {front s s' h p t : List Char} (hs : '.' ∉ s) (hs' : '.' ∉ s')
    (parts : Parts (front ++ '.' :: s) h p t) : Parts (front ++ '.' :: s') h p s' := by
  have hsplit : front.splitOn '.' ++ [s] = [h, p] ++ [t] := by
    rw [← List.splitOn_eq_singleton hs, ← List.splitOn_append_cons_self,
      splitOn_eq_iff_parts.mpr parts]
    rfl
  obtain ⟨hfront, -⟩ := List.append_inj' hsplit rfl
  apply splitOn_eq_iff_parts.mp
  rw [List.splitOn_append_cons_self, List.splitOn_eq_singleton hs', hfront]
  rfl

theorem Decodes.replace {front s s' : List Char} {result : Except TokenFailure Claims}
    (hs : '.' ∉ s) (hs' : '.' ∉ s') (h : Decodes (front ++ '.' :: s) result) :
    Decodes (front ++ '.' :: s') result := by
  cases h with
  | segmentCount count =>
    have hcount : (front ++ '.' :: s).count '.' = (front ++ '.' :: s').count '.' := by
      simp [List.count_append, List.count_eq_zero_of_not_mem hs, List.count_eq_zero_of_not_mem hs']
    rw [hcount] at count ⊢
    exact .segmentCount count
  | header parts faulty => exact .header (parts.replace hs hs') faulty
  | payload parts header faulty => exact .payload (parts.replace hs hs') header faulty
  | claims parts holdsHeader holdsPayload =>
    exact .claims (parts.replace hs hs') holdsHeader holdsPayload

/-- Blanks in front are taken from what stands before the signature, blanks behind from the
signature. -/
theorem trim_append_signature (front signature : String) :
    trim (front ++ "." ++ signature).toList =
      front.toList.dropWhile isBlank ++ '.' :: dropEndWhile isBlank signature.toList := by
  have htext : (front ++ "." ++ signature).toList = front.toList ++ '.' :: signature.toList := by
    simp [String.toList_append]
  rw [htext, trim_append_cons (by decide)]

/-- **The signature does not matter**, whatever stands in front of it. -/
theorem decode_append_signature {front signature signature' : String}
    (h : '.' ∉ signature.toList) (h' : '.' ∉ signature'.toList) :
    decode (front ++ "." ++ signature) = decode (front ++ "." ++ signature') := by
  have hdecodes := decode_eq_iff_decodes.mp (rfl : decode (front ++ "." ++ signature') = _)
  rw [trim_append_signature] at hdecodes
  rw [decode_eq_iff_decodes, trim_append_signature]
  exact hdecodes.replace (not_mem_dropEndWhile h') (not_mem_dropEndWhile h)

/-! ## Encoding -/

/-- Encoded text has neither blanks nor dots. -/
theorem not_isBlank_of_mem_encode {padded : Bool} {bs : List UInt8} {c : Char}
    (h : c ∈ Base64.encode .urlSafe padded bs) : ¬ isBlank c ∧ c ≠ '.' := by
  obtain ⟨k, hk⟩ := Base64.exists_encode_eq (a := .urlSafe) padded bs
  have hsymbol : ∀ n < 64, ¬ isBlank (Base64.Alphabet.symbol .urlSafe n) ∧
      Base64.Alphabet.symbol .urlSafe n ≠ '.' := by decide
  rw [hk] at h
  rcases List.mem_append.mp h with h | h
  · obtain ⟨n, hn, rfl⟩ := Base64.exists_of_mem_encode h
    exact hsymbol n hn
  · obtain rfl := List.eq_of_mem_replicate h
    decide

/-- **What is encoded is decoded again**: a header and a payload with any signature behind them. -/
theorem decode_encoded {header payload : List UInt8} {hm pm : List (String × Value)}
    (hheader : Reader.run objectReader header = .ok hm)
    (hpayload : Reader.run objectReader payload = .ok pm) (padded padded' : Bool)
    {signature : String} (hsignature : '.' ∉ signature.toList) :
    decode (String.ofList (Base64.encode .urlSafe padded header) ++ "." ++
      String.ofList (Base64.encode .urlSafe padded' payload) ++ "." ++ signature) =
        .ok (ofMembers hm pm) := by
  have hfront : (String.ofList (Base64.encode .urlSafe padded header) ++ "." ++
      String.ofList (Base64.encode .urlSafe padded' payload)).toList =
        Base64.encode .urlSafe padded header ++ '.' :: Base64.encode .urlSafe padded' payload := by
    simp [String.toList_append]
  have hdrop : (Base64.encode .urlSafe padded header).dropWhile isBlank =
      Base64.encode .urlSafe padded header := by
    rw [List.dropWhile_eq_self_iff]
    intro hne
    exact (not_isBlank_of_mem_encode (List.getElem_mem hne)).1
  apply decode_of_decodes
  rw [trim_append_signature, hfront, dropWhile_append_cons (by decide), hdrop, List.append_assoc]
  refine .claims ⟨rfl, ?_, ?_, not_mem_dropEndWhile hsignature⟩
    ⟨header, Base64.spells_encode padded header, hheader⟩
    ⟨payload, Base64.spells_encode padded' payload, hpayload⟩
  · exact fun h => (not_isBlank_of_mem_encode h).2 rfl
  · exact fun h => (not_isBlank_of_mem_encode h).2 rfl

/-- **Decoded by segments.** What comes of a text is told by its parts, whichever text it is: it is
read if both of its first segments, with or without padding, are canonical base 64 of bytes that are
read as objects, and otherwise the first fault is reported. The signature makes no difference, and
any two objects are read again from what is encoded of them. -/
theorem decoded_by_segments :
    (∀ token result, decode token = result ↔ Decodes (trim token.toList) result) ∧
      (∀ cs, (∃ bs, cs = Base64.encode .urlSafe false bs) ↔ Base64.IsCanonical .urlSafe cs) ∧
      (∀ front signature signature' : String,
        '.' ∉ signature.toList → '.' ∉ signature'.toList →
          decode (front ++ "." ++ signature) = decode (front ++ "." ++ signature')) ∧
      ∀ (header payload : List UInt8) (hm pm : List (String × Value)) (padded padded' : Bool)
        (signature : String), Reader.run objectReader header = .ok hm →
          Reader.run objectReader payload = .ok pm → '.' ∉ signature.toList →
            decode (String.ofList (Base64.encode .urlSafe padded header) ++ "." ++
              String.ofList (Base64.encode .urlSafe padded' payload) ++ "." ++ signature) =
                .ok (ofMembers hm pm) := by
  refine ⟨fun token result => decode_eq_iff_decodes, fun cs => Base64.isCanonical_iff.symm, ?_, ?_⟩
  · intro front signature signature' h h'
    exact decode_append_signature h h'
  · intro header payload hm pm padded padded' signature hheader hpayload hsignature
    exact decode_encoded hheader hpayload padded padded' hsignature

/-- **Two empty objects**, the first one padded, with either of two signatures. -/
theorem decoded_by_segments_of_empty :
    Reader.run objectReader (Utf8.bytes "\x7b\x7d") = .ok [] ∧
      decode "e30=.e30.sig" = .ok ⟨[], []⟩ ∧
      decode "e30=.e30." = .ok ⟨[], []⟩ := by
  obtain ⟨-, -, hsignature, hencoded⟩ := decoded_by_segments
  have hread : Reader.run objectReader (Utf8.bytes "\x7b\x7d") = .ok [] := rfl
  have htext : String.ofList (Base64.encode .urlSafe true (Utf8.bytes "\x7b\x7d")) ++ "." ++
      String.ofList (Base64.encode .urlSafe false (Utf8.bytes "\x7b\x7d")) ++ "." ++ "sig" =
        "e30=.e30.sig" := by decide +kernel
  have hdecode : decode "e30=.e30.sig" = .ok ⟨[], []⟩ := by
    rw [← htext]
    exact hencoded _ _ [] [] true false "sig" hread hread (by decide)
  have hsame : decode "e30=.e30.sig" = decode "e30=.e30." :=
    hsignature "e30=.e30" "sig" "" (by decide) (by decide)
  exact ⟨hread, hdecode, hsame.symm.trans hdecode⟩

end Outbound.Claims
