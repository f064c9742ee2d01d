import Outbound.Proofs.Domain.Names
import Outbound.Proofs.Url.Ipv6
import Outbound.Proofs.Url.Percent
import Outbound.Url.Parser

/-!
# Hosts and their texts

The text of a host that was read is read as this host.

* **characters** — no host has a character that would end it, but for the brackets and colons of an
  IPv6 address (`inHost`);
* **ends** — a colon behind a host is the first one outside brackets (`splitHost_of_plain`,
  `splitHost_of_bracketed`);
* **reading back** — an address is always read back (`written_ipv4`, `written_ipv6`), and so is any
  name of a scheme that is not special (`written_verbatim`); a name of a special scheme is if it is
  its own ASCII form (`written_name`), as plain names are;
* **all of it** — `written_of_readHost`.
-/

namespace Outbound.Url

open Outbound.Text

/-- The reader of hosts that a scheme has. -/
def readHost (special : Bool) (cs : List Char) : Except UrlError Host :=
  if special then parseDomain cs else parseVerbatimHost cs

/-- What the text of a host cannot have. -/
def inHost (c : Char) : Bool := (inControls c || isForbidden c) && !([':', '[', ']'].contains c)

theorem inHost_of_inControls {c : Char} (h : inControls c = true) : inHost c = true := by
  have hspared : ∀ d ∈ [':', '[', ']'], inControls d = false := by decide
  rw [inHost, h, Bool.true_or, Bool.true_and, Bool.not_eq_true', ← Bool.not_eq_true,
    List.contains_iff_mem]
  intro hmem
  rw [hspared c hmem] at h
  cases h

theorem encoding_inHost : Encoding inHost := ⟨fun _ => inHost_of_inControls, by decide⟩

/-- **Hosts that their text stands for.** -/
structure Host.Written (special : Bool) (h : Host) : Prop where
  chars : Clean inHost h.text.toList
  ends : ∀ rest, rest = [] ∨ rest.head? = some ':' →
    splitHost false (h.text.toList ++ rest) = (h.text.toList, rest)
  read : readHost special h.text.toList = .ok h

/-! ## Where a host ends -/

section Ends

variable {rest : List Char}

/-- Without colons and brackets a host ends where its text does. -/
theorem splitHost_of_plain {cs : List Char} (h : ∀ c ∈ cs, c ≠ ':' ∧ c ≠ '[')
    (hrest : rest = [] ∨ rest.head? = some ':') : splitHost false (cs ++ rest) = (cs, rest) := by
  induction cs with
  | nil =>
    rcases rest with _ | ⟨c, rest⟩
    · rfl
    · obtain rfl : c = ':' := by simpa using hrest
      rw [List.nil_append, splitHost, if_pos ⟨rfl, rfl⟩]
  | cons c cs ih =>
    obtain ⟨⟨hcolon, hbracket⟩, hcs⟩ := List.forall_mem_cons.mp h
    rw [List.cons_append, splitHost, if_neg (fun h => hcolon h.1), if_neg hbracket]
    simp [ih hcs]

/-- In brackets a host ends behind them. -/
theorem splitHost_of_bracketed {cs : List Char} (h : ∀ c ∈ cs, c ≠ '[' ∧ c ≠ ']')
    (hrest : rest = [] ∨ rest.head? = some ':') :
    splitHost false ('[' :: (cs ++ ']' :: rest)) = ('[' :: (cs ++ [']']), rest) := by
  have hinside : ∀ cs : List Char, (∀ c ∈ cs, c ≠ '[' ∧ c ≠ ']') →
      splitHost true (cs ++ ']' :: rest) = (cs ++ [']'], rest) := by
    intro cs h
    induction cs with
    | nil =>
      have hend : splitHost false ([] ++ rest) = ([], rest) := splitHost_of_plain (by simp) hrest
      rw [List.nil_append] at hend
      rw [List.nil_append, splitHost, if_neg (by decide)]
      simp [hend]
    | cons c cs ih =>
      obtain ⟨⟨hopen, hclose⟩, hcs⟩ := List.forall_mem_cons.mp h
      rw [List.cons_append, splitHost, if_neg (by simp), if_neg hopen, if_neg hclose]
      simp [ih hcs]
  rw [splitHost, if_neg (by decide)]
  simp [hinside cs h]

end Ends

/-! ## Addresses -/

theorem bracketed_concat {cs : List Char} {pieces : List Nat} (h : ipv6? cs = some pieces) :
    bracketed (cs ++ [']']) = .ok (.ipv6 pieces) := by
  rw [bracketed, List.getLast?_concat, List.dropLast_concat, h]
  rfl

/-- **An IPv6 address** is read back with every scheme. -/
theorem written_ipv6 (special : Bool) {pieces : List Nat} (hlength : pieces.length = 8)
    (h : ∀ n ∈ pieces, n < 65536) : (Host.ipv6 pieces).Written special := by
  have htext : (Host.ipv6 pieces).text.toList = '[' :: ((ipv6Text pieces).toList ++ [']']) := by
    rw [Host.text, String.toList_append, String.toList_append]
    rfl
  have hchars : ∀ c ∈ (ipv6Text pieces).toList,
      (c.toNat < 0x80 ∧ inHost c = false) ∧ c ≠ '[' ∧ c ≠ ']' :=
    forall_mem_ipv6Text (by decide) (by decide) pieces
  constructor
  · rw [htext]
    refine clean_cons.mpr ⟨by decide, clean_append.mpr ⟨fun c hc => (hchars c hc).1, ?_⟩⟩
    exact clean_cons.mpr ⟨by decide, clean_nil⟩
  · intro rest hrest
    rw [htext, List.cons_append, List.append_assoc, List.singleton_append]
    exact splitHost_of_bracketed (fun c hc => (hchars c hc).2) hrest
  · have hbracketed := bracketed_concat (ipv6?_ipv6Text hlength h)
    rw [htext, readHost]
    cases special
    · exact hbracketed
    · exact hbracketed

/-! ## Names of special schemes -/

/-- **A name in its ASCII form** is read as it is: as an address, if it ends in a number. -/
theorem parseDomain_of_ascii? {cs : List Char} (hne : cs ≠ [])
    (h : Domain.ascii? isForbiddenInDomain cs = some cs) :
    parseDomain cs = if endsInNumber cs then
        match ipv4? cs with
        | some address => .ok (.ipv4 address)
        | none => .error .invalidIpv4
      else .ok (.name (String.ofList cs)) := by
  have hchars : Clean isForbiddenInDomain cs := Domain.forall_mem_ascii? (by decide) (by decide) h
  have hdecode : Utf8.decodeLossy (percentDecode cs) = cs := by
    rw [percentDecode_of_not_mem (hchars.not_mem (by decide)), Utf8.decodeLossy_encode]
  obtain ⟨c, cs, rfl⟩ := List.exists_cons_of_ne_nil hne
  have hbracket : c ≠ '[' := by
    rintro rfl
    exact hchars.not_mem (c := '[') (by decide) List.mem_cons_self
  unfold parseDomain
  split
  case h_1 inner heq => exact absurd (List.cons.inj heq).1 hbracket
  case h_2 =>
    rewrite [hdecode, h]
    rfl

theorem inHost_le {c : Char} (h : inHost c = true) : isForbiddenInDomain c = true := by
  rw [inHost, Bool.and_eq_true] at h
  rw [isForbiddenInDomain, Bool.or_comm (isForbidden c), h.1, Bool.true_or]

theorem ends_of_clean {cs rest : List Char} (h : Clean isForbidden cs)
    (hrest : rest = [] ∨ rest.head? = some ':') : splitHost false (cs ++ rest) = (cs, rest) := by
  refine splitHost_of_plain (fun c hc => ?_) hrest
  constructor
  · rintro rfl
    exact h.not_mem (by decide) hc
  · rintro rfl
    exact h.not_mem (by decide) hc

theorem isForbidden_le {c : Char} (h : isForbidden c = true) : isForbiddenInDomain c = true := by
  rw [isForbiddenInDomain, h, Bool.true_or, Bool.true_or]

/-- **A name** of a special scheme is read back if it is its own ASCII form. -/
theorem written_name {name : String} (hne : name ≠ "")
    (h : Domain.ascii? isForbiddenInDomain name.toList = some name.toList)
    (hnumber : endsInNumber name.toList = false) : (Host.name name).Written true := by
  have hchars : Clean isForbiddenInDomain name.toList :=
    Domain.forall_mem_ascii? (by decide) (by decide) h
  refine ⟨hchars.mono fun _ => inHost_le,
    fun rest => ends_of_clean (hchars.mono fun _ => isForbidden_le), ?_⟩
  have hread := parseDomain_of_ascii? (by simpa using hne) h
  rw [hnumber, if_neg Bool.false_ne_true, String.ofList_toList] at hread
  exact hread

/-- The dotted form is its own ASCII form. -/
theorem plain_ipv4Text (address : Nat) :
    Domain.Plain isForbiddenInDomain (ipv4Text address).toList := by
  constructor
  · exact forall_mem_ipv4Text (by decide) (by decide) address
  · exact forall_mem_ipv4Text (by decide) (by decide) address
  · intro label hlabel hsign
    rw [splitOn_ipv4Text] at hlabel
    obtain ⟨n, -, rfl⟩ := List.mem_map.mp hlabel
    have hx : 'x' ∈ Nat.toDigits 10 n := hsign.subset (by decide)
    exact not_mem_toDigits (by decide) n hx

/-- **An IPv4 address** is read back. -/
theorem written_ipv4 {address : Nat} (h : address < 2 ^ 32) : (Host.ipv4 address).Written true := by
  have hplain := plain_ipv4Text address
  have hchars : Clean isForbiddenInDomain (ipv4Text address).toList := hplain.chars
  refine ⟨hchars.mono fun _ => inHost_le,
    fun rest => ends_of_clean (hchars.mono fun _ => isForbidden_le), ?_⟩
  have hne : (ipv4Text address).toList ≠ [] := by
    intro hnil
    have hends := endsInNumber_ipv4Text address
    rw [hnil] at hends
    exact absurd hends (by decide)
  have hread := parseDomain_of_ascii? hne (Domain.ascii?_of_plain hplain)
  rw [endsInNumber_ipv4Text, if_pos rfl, ipv4?_ipv4Text h] at hread
  exact hread

/-! ## Names of other schemes -/

theorem parseVerbatimHost_of_clean {cs : List Char} (h : ∀ c ∈ cs, isForbidden c = false) :
    parseVerbatimHost cs = .ok (.name (String.ofList (percentEncode inControls cs))) := by
  have hany : ¬ cs.any isForbidden = true := by simpa using h
  unfold parseVerbatimHost
  split
  case h_1 inner => exact absurd (h '[' List.mem_cons_self) (by decide)
  case h_2 => rw [if_neg hany]

/-- **A name** of a scheme that is not special is read back. -/
theorem written_verbatim {cs : List Char} (h : ∀ c ∈ cs, isForbidden c = false) :
    (Host.name (String.ofList (percentEncode inControls cs))).Written false := by
  have hplain : Clean isForbidden (percentEncode inControls cs) :=
    forall_mem_percentEncode (by decide) fun c hc hascii _ => ⟨hascii, h c hc⟩
  have hcontrols : Clean inControls (percentEncode inControls cs) :=
    clean_percentEncode encoding_inControls
  have htext : (Host.name (String.ofList (percentEncode inControls cs))).text.toList =
      percentEncode inControls cs := String.toList_ofList
  constructor
  · intro c hc
    rw [htext] at hc
    refine ⟨(hplain c hc).1, ?_⟩
    rw [inHost, (hplain c hc).2, (hcontrols c hc).2]
    rfl
  · intro rest hrest
    rw [htext]
    exact ends_of_clean hplain hrest
  · have hread := parseVerbatimHost_of_clean fun c hc => (hplain c hc).2
    rw [percentEncode_of_clean hcontrols] at hread
    rw [htext]
    exact hread

/-! ## Whatever was read -/

theorem written_of_bracketed {special : Bool} {cs : List Char} {h : Host}
    (hread : bracketed cs = .ok h) :
    h.Written special := by
  rw [bracketed] at hread
  split at hread
  case h_1 pieces _ hpieces =>
    obtain rfl := Except.ok.inj hread
    obtain ⟨hlength, hlt⟩ := of_ipv6? hpieces
    exact written_ipv6 special hlength hlt
  case h_2 => cases hread

/-- **A host that was read** is what its text stands for, if a name of a special scheme is its own
ASCII form. -/
theorem written_of_readHost {special : Bool} {cs : List Char} {h : Host}
    (hread : readHost special cs = .ok h)
    (hname : special = true → ∀ name, h = .name name → name ≠ "" →
      Domain.ascii? isForbiddenInDomain name.toList = some name.toList) : h.Written special := by
  cases special with
  | false =>
    replace hread : parseVerbatimHost cs = .ok h := hread
    unfold parseVerbatimHost at hread
    split at hread
    case h_1 => exact written_of_bracketed hread
    case h_2 cs _ =>
      split at hread
      case isTrue => cases hread
      case isFalse hforbidden =>
        obtain rfl := Except.ok.inj hread
        exact written_verbatim (by simpa using hforbidden)
  | true =>
    replace hread : parseDomain cs = .ok h := hread
    unfold parseDomain at hread
    split at hread
    case h_1 => exact written_of_bracketed hread
    case h_2 cs _ =>
      split at hread
      case h_1 => cases hread
      case h_2 => cases hread
      case h_3 name hne _ =>
        split at hread
        case isTrue =>
          split at hread
          case h_1 address haddress =>
            obtain rfl := Except.ok.inj hread
            exact written_ipv4 (lt_of_ipv4? haddress)
          case h_2 => cases hread
        case isFalse hnumber =>
          obtain rfl := Except.ok.inj hread
          have hnonempty : String.ofList name ≠ "" := by
            intro hempty
            exact hne (by simpa using congrArg String.toList hempty)
          refine written_name hnonempty (hname rfl _ rfl hnonempty) ?_
          rw [String.toList_ofList]
          exact Bool.eq_false_iff.mpr hnumber

/-- **A special scheme** has no empty host. -/
theorem parseDomain_nil : parseDomain [] = .error .emptyHost := by
  have hascii : Domain.ascii? isForbiddenInDomain [] = some [] :=
    Domain.ascii?_of_plain ⟨by simp, by simp, by simp [Domain.punycodeSign]⟩
  unfold parseDomain
  split
  case h_1 heq => cases heq
  case h_2 =>
    have hdecode : Utf8.decodeLossy (percentDecode []) = [] := rfl
    rw [hdecode, hascii]

theorem Host.Written.text_ne_nil {h : Host} (hwritten : h.Written true) : h.text.toList ≠ [] := by
  intro hnil
  have hread : parseDomain h.text.toList = .ok h := hwritten.read
  rw [hnil, parseDomain_nil] at hread
  cases hread

end Outbound.Url
