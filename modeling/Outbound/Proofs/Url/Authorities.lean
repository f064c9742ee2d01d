import Outbound.Proofs.Checks
import Outbound.Proofs.Url.Hosts

/-!
# Authorities and their texts

The text of an authority that was read is read as this authority.

* **parts** — the last `@` and the first colon in front of it part the names (`splitAtSign_append`,
  `splitUserinfo_append`), and a port is read back unless its scheme implies it
  (`parsePort_toDigits`);
* **reading** — what it takes to read an authority (`parseAuthority_eq_ok_iff`), of which all that
  was read is `Authority.Written` (`written_of_parseAuthority`);
* **text** — it holds nothing that would end it (`Authority.Written.clean`), and is read back
  whatever follows (`Authority.Written.parse`).
-/

namespace Outbound.Url

open Outbound.Text

/-! ## Parts -/

theorem splitAtSign_of_not_mem {cs : List Char} (h : '@' ∉ cs) : splitAtSign cs = none := by
  have hnil : cs.reverse.dropWhile (· != '@') = [] := by
    refine List.dropWhile_eq_nil_iff.mpr fun c hc => ?_
    rw [bne_iff_ne]
    rintro rfl
    exact h (List.mem_reverse.mp hc)
  rw [splitAtSign, hnil]

/-- **The last `@`** parts an authority. -/
theorem splitAtSign_append {front back : List Char} (h : '@' ∉ back) :
    splitAtSign (front ++ '@' :: back) = some (front, back) := by
  have hreverse : (front ++ '@' :: back).reverse = back.reverse ++ '@' :: front.reverse := by simp
  have hback : ∀ c ∈ back.reverse, (c != '@') = true := by
    intro c hc
    rw [bne_iff_ne]
    rintro rfl
    exact h (List.mem_reverse.mp hc)
  rw [splitAtSign, hreverse, List.dropWhile_append_of_pos hback, List.takeWhile_append_of_pos hback]
  simp

/-- **The first colon** parts what is in front of the `@`. -/
theorem splitUserinfo_append {username password : String}
    (husername : Clean inUserinfo username.toList) (hpassword : Clean inUserinfo password.toList) :
    splitUserinfo (username.toList ++ if password.isEmpty then [] else ':' :: password.toList) =
      (username, password) := by
  have hcolon : ∀ c ∈ username.toList, (c != ':') = true := by
    intro c hc
    rw [bne_iff_ne]
    rintro rfl
    exact husername.not_mem (by decide) hc
  have hencode : ∀ {s : String}, Clean inUserinfo s.toList →
      String.ofList (percentEncode inUserinfo s.toList) = s := by
    intro s h
    rw [percentEncode_of_clean h, String.ofList_toList]
  rw [splitUserinfo, List.takeWhile_append_of_pos hcolon, List.dropWhile_append_of_pos hcolon]
  split
  case isTrue hempty =>
    have hnil : password = "" := by simpa using hempty
    simp [hencode husername, hnil]
    rfl
  case isFalse => simp [hencode husername, hencode hpassword]

theorem clean_splitUserinfo {cs : List Char} {username password : String}
    (h : splitUserinfo cs = (username, password)) :
    Clean inUserinfo username.toList ∧ Clean inUserinfo password.toList := by
  obtain ⟨rfl, rfl⟩ := Prod.mk.inj h
  rw [String.toList_ofList, String.toList_ofList]
  exact ⟨clean_percentEncode encoding_inUserinfo, clean_percentEncode encoding_inUserinfo⟩

/-! ## Ports -/

section Ports

variable {scheme : String}

theorem parsePort_nil : parsePort scheme [] = .ok (none, []) := rfl

/-- **A port** that the scheme does not imply is read back. -/
theorem parsePort_toDigits {port : Nat} (hle : port ≤ 65535)
    (hne : defaultPort? scheme ≠ some port) :
    parsePort scheme (Nat.toDigits 10 port) = .ok (some port, []) := by
  have hkept : ∀ c ∈ Nat.toDigits 10 port, (c != '\\') = true :=
    forall_mem_toDigits (by decide) (by decide) port
  have hdigits : ∀ c ∈ Nat.toDigits 10 port, c.isDigit = true :=
    forall_mem_toDigits (by decide) (by decide) port
  have htake : (Nat.toDigits 10 port).takeWhile (· != '\\') = Nat.toDigits 10 port :=
    List.takeWhile_eq_self_iff.mpr hkept
  have hdrop : (Nat.toDigits 10 port).dropWhile (· != '\\') = [] :=
    List.dropWhile_eq_nil_iff.mpr hkept
  have hall : (Nat.toDigits 10 port).all Char.isDigit = true := List.all_eq_true.mpr hdigits
  have hempty : (Nat.toDigits 10 port).isEmpty = false := by simp
  rw [parsePort]
  dsimp only
  rw [htake, hdrop, hall, hempty, Nat.ofDigitChars_ten_toDigits]
  simp [Nat.not_lt.mpr hle, hne]

/-- **A port that was read** fits, and is not the one that the scheme implies. -/
theorem of_parsePort {cs stray : List Char} {port : Nat}
    (h : parsePort scheme cs = .ok (some port, stray)) :
    port ≤ 65535 ∧ defaultPort? scheme ≠ some port := by
  rw [parsePort] at h
  dsimp only at h
  obtain ⟨-, h⟩ := ite_error_eq_ok.mp h
  split at h
  case isTrue => cases h
  case isFalse =>
    obtain ⟨hfits, h⟩ := ite_error_eq_ok.mp h
    have hport := (Prod.mk.inj (Except.ok.inj h)).1
    split at hport
    case isTrue => cases hport
    case isFalse hne =>
      obtain rfl := Option.some.inj hport
      exact ⟨Nat.le_of_not_lt hfits, hne⟩

end Ports

/-! ## Reading -/

/-- Either reader of hosts, in front of what is done with the host. -/
theorem ite_parseHost_bind {α : Type} (special : Bool) (cs : List Char)
    (f : Host → Except UrlError α) :
    (if special = true then parseDomain cs >>= f else parseVerbatimHost cs >>= f) =
      readHost special cs >>= f := by
  rw [readHost]
  split <;> rfl

/-- **What it takes to read an authority.** -/
theorem parseAuthority_eq_ok_iff {scheme : String} {cs more rest : List Char} {a : Authority} :
    parseAuthority scheme cs more = .ok (a, rest) ↔
      ∃ userinfo after hostText portText stray,
        (splitAtSign cs).getD ([], cs) = (userinfo, after) ∧
        ¬ ((splitAtSign cs).isSome ∧ userinfo.isEmpty ∧ after.isEmpty ∧ !more.isEmpty) ∧
        splitHost false after = (hostText, portText) ∧
        ¬ (isSpecial scheme ∧ hostText.isEmpty) ∧
        readHost (isSpecial scheme) hostText = .ok a.host ∧
        ¬ (a.host = .name "" ∧ !portText.isEmpty) ∧
        parsePort scheme (portText.drop 1) = .ok (a.port, stray) ∧
        splitUserinfo userinfo = (a.username, a.password) ∧
        ¬ (a.host = .name "" ∧ !(a.username.isEmpty && a.password.isEmpty)) ∧
        rest = stray ++ more := by
  unfold parseAuthority
  dsimp only
  rcases hparts : (splitAtSign cs).getD ([], cs) with ⟨userinfo, after⟩
  dsimp only
  rcases hsplit : splitHost false after with ⟨hostText, portText⟩
  rcases hnames : splitUserinfo userinfo with ⟨username, password⟩
  dsimp only
  rw [ite_parseHost_bind]
  constructor
  · intro h
    obtain ⟨hlonely, h⟩ := ite_error_eq_ok.mp h
    obtain ⟨hempty, h⟩ := ite_error_eq_ok.mp h
    obtain ⟨host, hread, h⟩ := bind_eq_ok.mp h
    obtain ⟨hport, h⟩ := ite_error_eq_ok.mp h
    obtain ⟨⟨port, stray⟩, hparse, h⟩ := bind_eq_ok.mp h
    obtain ⟨halone, h⟩ := ite_error_eq_ok.mp h
    obtain ⟨rfl, rfl⟩ := Prod.mk.inj (Except.ok.inj h)
    exact ⟨userinfo, after, hostText, portText, stray, rfl, hlonely, hsplit, hempty, hread, hport,
      hparse, hnames, halone, rfl⟩
  · rintro ⟨_, _, _, _, stray, ⟨⟩, hlonely, hsplit', hempty, hread, hport, hparse, hname, halone,
      rfl⟩
    obtain ⟨rfl, rfl⟩ := Prod.mk.inj (hsplit.symm.trans hsplit')
    obtain ⟨rfl, rfl⟩ := Prod.mk.inj (hnames.symm.trans hname)
    refine ite_error_eq_ok.mpr ⟨hlonely,
      ite_error_eq_ok.mpr ⟨hempty, bind_eq_ok.mpr ⟨_, hread, ?_⟩⟩⟩
    exact ite_error_eq_ok.mpr ⟨hport, bind_eq_ok.mpr ⟨_, hparse, ite_error_eq_ok.mpr ⟨halone, rfl⟩⟩⟩

/-! ## Writing -/

/-- **Authorities that their text stands for.** An empty host comes alone. -/
structure Authority.Written (scheme : String) (a : Authority) : Prop where
  username : Clean inUserinfo a.username.toList
  password : Clean inUserinfo a.password.toList
  host : a.host.Written (isSpecial scheme)
  port : ∀ port, a.port = some port → port ≤ 65535 ∧ defaultPort? scheme ≠ some port
  alone : a.host = .name "" → a.username = "" ∧ a.password = "" ∧ a.port = none

/-- **An authority that was read** is what its text stands for, if a name of a special scheme is its
own ASCII form. -/
theorem written_of_parseAuthority {scheme : String} {cs more rest : List Char} {a : Authority}
    (h : parseAuthority scheme cs more = .ok (a, rest))
    (hname : isSpecial scheme = true → ∀ name, a.host = .name name → name ≠ "" →
      Domain.ascii? isForbiddenInDomain name.toList = some name.toList) : a.Written scheme := by
  obtain ⟨userinfo, after, hostText, portText, stray, -, -, -, -, hread, hportless, hport, hsplit,
    hnameless, -⟩ := parseAuthority_eq_ok_iff.mp h
  obtain ⟨husername, hpassword⟩ := clean_splitUserinfo hsplit
  refine ⟨husername, hpassword, written_of_readHost hread hname, ?_, ?_⟩
  · intro port hsome
    rw [hsome] at hport
    exact of_parsePort hport
  · intro hhost
    have hempty : portText = [] := by simpa [hhost] using hportless
    rw [hempty, List.drop_nil, parsePort_nil] at hport
    have hnone := (Prod.mk.inj (Except.ok.inj hport)).1
    have hnames : a.username = "" ∧ a.password = "" := by simpa [hhost] using hnameless
    exact ⟨hnames.1, hnames.2, hnone.symm⟩

/-- The text in front of the `@`. -/
def Authority.names (a : Authority) : List Char :=
  a.username.toList ++ if a.password.isEmpty then [] else ':' :: a.password.toList

/-- The text behind the host. -/
def Authority.portText (a : Authority) : List Char :=
  match a.port with
  | some port => ':' :: Nat.toDigits 10 port
  | none => []

theorem Authority.names_eq_nil_iff {a : Authority} :
    a.names = [] ↔ a.username = "" ∧ a.password = "" := by
  rw [Authority.names, List.append_eq_nil_iff, String.toList_eq_nil_iff]
  refine and_congr_right fun _ => ?_
  split
  case isTrue h => simpa using h
  case isFalse h => simpa using h

theorem Authority.toList_userinfo (a : Authority) :
    a.userinfo.toList = if a.names = [] then [] else a.names ++ ['@'] := by
  rw [Authority.userinfo]
  by_cases hnames : a.username = "" ∧ a.password = ""
  · rw [if_pos (Authority.names_eq_nil_iff.mpr hnames), if_pos (by simp [hnames])]
    rfl
  · rw [if_neg (fun h => hnames (Authority.names_eq_nil_iff.mp h)), if_neg (by simpa using hnames),
      String.toList_append, String.toList_append, Authority.names]
    split <;> simp

/-- **The text of an authority** in its parts. -/
theorem Authority.toList_text (a : Authority) :
    a.text.toList =
      (if a.names = [] then [] else a.names ++ ['@']) ++ (a.host.text.toList ++ a.portText) := by
  rw [Authority.text, String.toList_append, String.toList_append, a.toList_userinfo,
    List.append_assoc, Authority.portText]
  congr 2
  cases a.port with
  | none => rfl
  | some port =>
    have hport : (toString port).toList = Nat.toDigits 10 port := Nat.toList_repr
    rw [String.toList_append, hport]
    rfl

theorem Authority.portText_cases (a : Authority) :
    a.portText = [] ∨ a.portText.head? = some ':' := by
  rw [Authority.portText]
  cases a.port with
  | none => exact .inl rfl
  | some port => exact .inr rfl

/-- What the text of an authority cannot have. -/
def inAuthority (c : Char) : Bool := inControls c || [' ', '/', '\\', '?', '#'].contains c

theorem inAuthority_le {set : Char → Bool} (hcontrols : ∀ c, inControls c = true → set c = true)
    (hset : ∀ c ∈ [' ', '/', '\\', '?', '#'], set c = true) (c : Char) (h : inAuthority c = true) :
    set c = true := by
  rw [inAuthority, Bool.or_eq_true, List.contains_iff_mem] at h
  exact h.elim (hcontrols c) (hset c)

theorem encoding_inAuthority : Encoding inAuthority :=
  ⟨fun c h => by rw [inAuthority, h, Bool.true_or], by decide⟩

section Writing

variable {scheme : String} {a : Authority} (h : a.Written scheme)

include h

/-- **No character** that ends an authority, or a part of it that stands in front, is in what
follows. -/
theorem Authority.Written.clean_hostAndPort : Clean inHost (a.host.text.toList ++ a.portText) := by
  refine clean_append.mpr ⟨h.host.chars, ?_⟩
  rw [Authority.portText]
  cases a.port with
  | none => exact clean_nil
  | some port => exact clean_cons.mpr ⟨by decide, forall_mem_toDigits (by decide) (by decide) port⟩

/-- **An authority** ends where its text does. -/
theorem Authority.Written.clean : Clean inAuthority a.text.toList := by
  have hnames : ∀ {cs : List Char}, Clean inUserinfo cs → Clean inAuthority cs := fun hcs =>
    hcs.mono (inAuthority_le encoding_inUserinfo.controls (by decide))
  have hback : Clean inAuthority (a.host.text.toList ++ a.portText) :=
    h.clean_hostAndPort.mono (inAuthority_le (fun _ => inHost_of_inControls) (by decide))
  rw [a.toList_text]
  refine clean_append.mpr ⟨?_, hback⟩
  split
  · exact clean_nil
  · refine clean_append.mpr ⟨?_, by decide⟩
    rw [Authority.names]
    refine clean_append.mpr ⟨hnames h.username, ?_⟩
    split
    · exact clean_nil
    · exact clean_cons.mpr ⟨by decide, hnames h.password⟩

theorem Authority.Written.parsePort_portText :
    parsePort scheme (a.portText.drop 1) = .ok (a.port, []) := by
  rw [Authority.portText]
  cases hsome : a.port with
  | none => exact parsePort_nil
  | some port => exact parsePort_toDigits (h.port port hsome).1 (h.port port hsome).2

theorem Authority.Written.splitAtSign_text : splitAtSign a.text.toList =
    if a.names = [] then none else some (a.names, a.host.text.toList ++ a.portText) := by
  have hat : '@' ∉ a.host.text.toList ++ a.portText := h.clean_hostAndPort.not_mem (by decide)
  rw [a.toList_text]
  split
  case isTrue => exact splitAtSign_of_not_mem hat
  case isFalse =>
    rw [List.append_assoc, List.singleton_append]
    exact splitAtSign_append hat

/-- **Reading an authority back.** -/
theorem Authority.Written.parse (more : List Char) :
    parseAuthority scheme a.text.toList more = .ok (a, more) := by
  have hparts : (splitAtSign a.text.toList).getD ([], a.text.toList) =
      (a.names, a.host.text.toList ++ a.portText) := by
    rw [h.splitAtSign_text]
    split
    case isTrue hnames => rw [a.toList_text, if_pos hnames, hnames]; rfl
    case isFalse => rfl
  refine parseAuthority_eq_ok_iff.mpr ⟨a.names, a.host.text.toList ++ a.portText,
    a.host.text.toList, a.portText, [], hparts, ?_, h.host.ends _ a.portText_cases, ?_,
    h.host.read, ?_, h.parsePort_portText, splitUserinfo_append h.username h.password, ?_, rfl⟩
  · rintro ⟨hsome, hnames, -, -⟩
    rw [h.splitAtSign_text, if_pos (List.isEmpty_iff.mp hnames)] at hsome
    cases hsome
  · rintro ⟨hspecial, hempty⟩
    have hhost := h.host
    rw [hspecial] at hhost
    exact hhost.text_ne_nil (List.isEmpty_iff.mp hempty)
  · rintro ⟨hhost, hport⟩
    rw [Authority.portText, (h.alone hhost).2.2] at hport
    cases hport
  · rintro ⟨hhost, hnames⟩
    obtain ⟨husername, hpassword, -⟩ := h.alone hhost
    rw [husername, hpassword] at hnames
    cases hnames

end Writing

end Outbound.Url
