import Outbound.Credential.Properties
import Outbound.Proofs.Checks

/-!
# What properties select

A configuration that is read from properties depends on little of them: on the last value of each
name that is not empty, and of these only on the ones of the kind that is selected.

* **last values** — `Properties.Says` tells without a search what the last value of a name is, and a
  look-up finds it (`get?_eq_some_iff`);
* **rearranging** — `Properties.Rearranged` lists what may be done to properties without a look-up
  of a known name telling the difference (`Rearranged.get?_eq`);
* **selection** — `Properties.Selects` lists what can come of `AUTH_TYPE` (`kind_eq_iff`);
* **parts** — two lists that select the same kind describe the same configuration if they agree on
  the names of this kind (`ofKind_congr`).
-/

namespace Outbound

open Outbound.Text

/-! ## Last values -/

namespace Properties

variable {ps qs : Properties} {name value : String}

/-- **What properties say** of a name: a value behind which all others of the name are empty. -/
def Says (ps : Properties) (name value : String) : Prop :=
  ∃ before after, ps = before ++ (name, value) :: after ∧ value ≠ "" ∧
    ∀ p ∈ after, p.1 = name → p.2 = ""

theorem get?_append : get? (ps ++ qs) name = (get? qs name).or (get? ps name) := by
  rw [get?, List.filter_append, List.getLast?_append, Option.map_or]
  rfl

/-- What a single pair is found to be: its value, unless this is empty. -/
def found? (name : String) (p : String × String) : Option String :=
  if p.1 = name ∧ p.2 ≠ "" then some p.2 else none

theorem found?_eq_none_of_ne {p : String × String} (h : p.1 ≠ name) : found? name p = none :=
  if_neg fun hp => h hp.1

theorem found?_self (hne : value ≠ "") : found? name (name, value) = some value :=
  if_pos ⟨rfl, hne⟩

theorem get?_cons (p : String × String) :
    get? (p :: ps) name = (get? ps name).or (found? name p) := by
  have hsingle : get? [p] name = found? name p := by
    by_cases h : p.1 = name ∧ p.2 ≠ ""
    · simp [get?, found?, h]
    · have hfilter : ¬ (p.1 == name && !p.2.isEmpty) = true := by simpa using h
      simp [get?, found?, h, hfilter]
  rw [← hsingle, ← get?_append, List.singleton_append]

/-- **Nothing is found** where all values of a name are empty. -/
theorem get?_eq_none_iff : get? ps name = none ↔ ∀ p ∈ ps, p.1 = name → p.2 = "" := by
  induction ps with
  | nil => exact ⟨fun _ => nofun, fun _ => rfl⟩
  | cons p ps ih =>
    rw [get?_cons, Option.or_eq_none_iff, ih, List.forall_mem_cons, and_comm, found?]
    simp

/-- **A look-up** finds what the properties say. -/
theorem get?_eq_some_iff : get? ps name = some value ↔ ps.Says name value := by
  constructor
  · intro h
    induction ps with
    | nil => cases h
    | cons p ps ih =>
      rw [get?_cons] at h
      rcases hps : get? ps name with _ | v
      · simp only [hps, found?, Option.none_or, Option.ite_none_right_eq_some,
          Option.some.injEq] at h
        obtain ⟨⟨rfl, hne⟩, rfl⟩ := h
        exact ⟨[], ps, rfl, hne, get?_eq_none_iff.mp hps⟩
      · rw [hps, Option.some_or] at h
        obtain ⟨before, after, rfl, hne, hafter⟩ := ih (hps.trans h)
        exact ⟨p :: before, after, rfl, hne, hafter⟩
  · rintro ⟨before, after, rfl, hne, hafter⟩
    rw [get?_append, get?_cons, get?_eq_none_iff.mpr hafter, found?_self hne]
    rfl

/-- Where two lists say the same, look-ups find the same. -/
theorem get?_congr (h : ∀ value, ps.Says name value ↔ qs.Says name value) :
    get? ps name = get? qs name := by
  apply Option.ext
  intro value
  rw [get?_eq_some_iff, get?_eq_some_iff, h]

end Properties

/-! ## Rearranging -/

/-- The properties of which the parts of each kind are put together. -/
def AuthType.propertyNames : AuthType → List String
  | .basic => ["USERNAME", "PASSWORD"]
  | .bearerToken => ["BEARER_TOKEN"]
  | .iam => ["APIKEY", "URL", "CLIENT_ID", "CLIENT_SECRET", "SCOPE"]
  | .noAuth => []

namespace Properties

/-- **Known names.** -/
def IsKnown (name : String) : Prop :=
  name = "AUTH_TYPE" ∨ ∃ kind : AuthType, name ∈ kind.propertyNames

/-- **Rearranged**: pairs of different names change places; empty values, names that are not known,
and values that stand in front of a later one come and go. -/
inductive Rearranged : Properties → Properties → Prop
  | swap {p q} (before after : Properties) (hne : p.1 ≠ q.1) :
    Rearranged (before ++ p :: q :: after) (before ++ q :: p :: after)
  | empty (before after : Properties) (name : String) :
    Rearranged (before ++ (name, "") :: after) (before ++ after)
  | unknown {name} (before after : Properties) (value : String) (hname : ¬ IsKnown name) :
    Rearranged (before ++ (name, value) :: after) (before ++ after)
  | earlier {later} (before between after : Properties) (name value : String)
      (hlater : later ≠ "") :
    Rearranged (before ++ (name, value) :: (between ++ (name, later) :: after))
      (before ++ (between ++ (name, later) :: after))
  | refl (ps : Properties) : Rearranged ps ps
  | symm {ps qs : Properties} (h : Rearranged ps qs) : Rearranged qs ps
  | trans {ps qs rs : Properties} (h : Rearranged ps qs) (h' : Rearranged qs rs) : Rearranged ps rs

/-- **No look-up of a known name** tells the difference. -/
theorem Rearranged.get?_eq {ps qs : Properties} (h : ps.Rearranged qs) {name : String}
    (hknown : IsKnown name) : get? ps name = get? qs name := by
  induction h with
  | @swap p q before after hne =>
    -- one of the two pairs is of another name
    have hcomm (o : Option String) :
        (found? name q).or ((found? name p).or o) = (found? name p).or ((found? name q).or o) := by
      by_cases hp : p.1 = name
      · rw [found?_eq_none_of_ne (p := q) (hp ▸ hne.symm), Option.none_or, Option.none_or]
      · rw [found?_eq_none_of_ne hp, Option.none_or, Option.none_or]
    simp only [get?_append, get?_cons, Option.or_assoc, hcomm]
  | empty before after other =>
    have hempty : found? name (other, "") = none := if_neg fun h => h.2 rfl
    rw [get?_append, get?_cons, hempty, Option.or_none, get?_append]
  | @unknown other before after value hother =>
    have hne : other ≠ name := fun h => hother (h ▸ hknown)
    rw [get?_append, get?_cons, found?_eq_none_of_ne hne, Option.or_none, get?_append]
  | @earlier later before between after other value hlater =>
    have hbehind : (get? (between ++ (other, later) :: after) name).or
        (found? name (other, value)) =
        get? (between ++ (other, later) :: after) name := by
      by_cases hother : other = name
      · -- the later pair decides, or one behind it
        rw [get?_append, get?_cons, hother, found?_self hlater]
        simp only [Option.or_assoc, Option.some_or]
      · rw [found?_eq_none_of_ne (p := (other, value)) hother, Option.or_none]
    rw [get?_append, get?_cons, hbehind, ← get?_append]
  | refl => rfl
  | symm _ ih => exact ih.symm
  | trans _ _ ih ih' => exact ih.trans ih'

end Properties

/-! ## Selection -/

/-- A text without the blanks around it. -/
def trimmed (s : String) : String := String.ofList (trim s.toList)

theorem sameIgnoringCase_iff {s t : String} :
    sameIgnoringCase s t = true ↔ s.toList.map Char.toLower = t.toList.map Char.toLower := by
  rw [sameIgnoringCase, beq_iff_eq, ← String.toList_inj, lower, lower, String.toList_map,
    String.toList_map]

namespace AuthType

variable {kind : AuthType} {s : String}

/-- **What a kind is called**: its label, up to the case of ASCII letters. -/
def IsCalled (kind : AuthType) (name : String) : Prop :=
  kind.label.toList.map Char.toLower = name.toList.map Char.toLower

/-- **Different kinds** are called differently. -/
theorem IsCalled.unique {kind' : AuthType} (h : kind.IsCalled s) (h' : kind'.IsCalled s) :
    kind = kind' := by
  have hlabels : kind.label.toList.map Char.toLower = kind'.label.toList.map Char.toLower :=
    h.trans h'.symm
  revert hlabels
  cases kind <;> cases kind' <;> decide

theorem mem_all (kind : AuthType) : kind ∈ all := by cases kind <;> decide

/-- **Reading a label** finds the kind that is called so. -/
theorem parse_eq_ok_iff : parse s = .ok kind ↔ kind.IsCalled (trimmed s) := by
  have hcalled (kind : AuthType) : sameIgnoringCase kind.label (trimmed s) = true ↔
      kind.IsCalled (trimmed s) := sameIgnoringCase_iff
  rw [parse, ← trimmed]
  rcases hfind : all.find? fun kind => sameIgnoringCase kind.label (trimmed s) with _ | found
  · have hnone := List.find?_eq_none.mp hfind kind kind.mem_all
    rw [hcalled] at hnone
    rw [hfind]
    constructor
    · intro h
      cases h
    · exact fun h => absurd h hnone
  · have hfound : found.IsCalled (trimmed s) := by
      rw [← hcalled]
      exact List.find?_some (p := fun kind : AuthType => sameIgnoringCase kind.label (trimmed s))
        hfind
    rw [hfind]
    constructor
    · intro h
      obtain rfl := Except.ok.inj h
      exact hfound
    · intro h
      rw [hfound.unique h]

/-- **An unknown label** is reported without the blanks around it. -/
theorem parse_eq_error (h : ∀ kind : AuthType, ¬ kind.IsCalled (trimmed s)) :
    parse s = .error (.unsupportedAuthType (trimmed s)) := by
  have hfind : all.find? (fun kind => sameIgnoringCase kind.label (trimmed s)) = none := by
    rw [List.find?_eq_none]
    intro kind _ hkind
    exact h kind (sameIgnoringCase_iff.mp hkind)
  rw [parse, ← trimmed, hfind]

end AuthType

/-- **What properties select**: IAM if they say nothing, the kind that is called as they say, or
none. -/
inductive Properties.Selects (ps : Properties) : Except ConfigFailure AuthType → Prop
  | unset (hsaid : ∀ text, ¬ ps.Says "AUTH_TYPE" text) : Selects ps (.ok .iam)
  | known {text kind} (hsaid : ps.Says "AUTH_TYPE" text) (hcalled : kind.IsCalled (trimmed text)) :
    Selects ps (.ok kind)
  | unknown {text} (hsaid : ps.Says "AUTH_TYPE" text)
    (hnone : ∀ kind : AuthType, ¬ kind.IsCalled (trimmed text)) :
    Selects ps (.error (.unsupportedAuthType (trimmed text)))

namespace Properties

variable {ps : Properties}

theorem kind_of_selects {selection : Except ConfigFailure AuthType} (h : ps.Selects selection) :
    ps.kind = selection := by
  cases h with
  | unset hsaid =>
    have hget : get? ps "AUTH_TYPE" = none :=
      Option.eq_none_iff_forall_ne_some.mpr fun text h => hsaid text (get?_eq_some_iff.mp h)
    rw [kind, hget]
  | known hsaid hcalled =>
    rw [kind, get?_eq_some_iff.mpr hsaid]
    exact AuthType.parse_eq_ok_iff.mpr hcalled
  | unknown hsaid hnone =>
    rw [kind, get?_eq_some_iff.mpr hsaid]
    exact AuthType.parse_eq_error hnone

/-- **Every list of properties** selects something. -/
theorem selects_kind (ps : Properties) : ps.Selects ps.kind := by
  rcases hget : get? ps "AUTH_TYPE" with _ | text
  · rw [kind, hget]
    refine .unset fun text hsaid => ?_
    rw [get?_eq_some_iff.mpr hsaid] at hget
    cases hget
  · have hsaid := get?_eq_some_iff.mp hget
    by_cases hcalled : ∃ kind : AuthType, kind.IsCalled (trimmed text)
    · obtain ⟨kind, hkind⟩ := hcalled
      rw [kind_of_selects (.known hsaid hkind)]
      exact .known hsaid hkind
    · have hnone := not_exists.mp hcalled
      rw [kind_of_selects (.unknown hsaid hnone)]
      exact .unknown hsaid hnone

/-- **Selection.** -/
theorem kind_eq_iff {selection : Except ConfigFailure AuthType} :
    ps.kind = selection ↔ ps.Selects selection := by
  constructor
  · rintro rfl
    exact ps.selects_kind
  · exact kind_of_selects

end Properties

/-! ## Parts -/

namespace AuthConfig

variable {kind : AuthType} {ps qs : Properties}

/-- **The configuration of a kind**, put together from the properties of the kind. -/
def ofKind (kind : AuthType) (ps : Properties) : Except ConfigFailure AuthConfig := do
  let secret (name : String) : Option Secret := (ps.get? name).map Secret.mk
  match kind with
  | .basic => return .basic (← BasicConfig.build (ps.get? "USERNAME") (secret "PASSWORD"))
  | .bearerToken =>
    return .bearerToken (← BearerConfig.build ((secret "BEARER_TOKEN").getD ⟨""⟩))
  | .iam =>
    return .iam (← IamConfig.build (secret "APIKEY") (ps.get? "URL") (ps.get? "CLIENT_ID")
      (secret "CLIENT_SECRET") (ps.get? "SCOPE"))
  | .noAuth => return .noAuth

theorem ofProperties_eq (ps : Properties) :
    ofProperties ps = ps.kind >>= fun kind => ofKind kind ps := rfl

theorem kind_of_ofKind {c : AuthConfig} (h : ofKind kind ps = .ok c) : c.kind = kind := by
  cases kind with
  | basic =>
    obtain ⟨_, -, ⟨⟩⟩ := bind_eq_ok.mp h
    rfl
  | bearerToken =>
    obtain ⟨_, -, ⟨⟩⟩ := bind_eq_ok.mp h
    rfl
  | iam =>
    obtain ⟨_, -, ⟨⟩⟩ := bind_eq_ok.mp h
    rfl
  | noAuth =>
    cases h
    rfl

/-- **No other properties** than those of the kind are looked at. -/
theorem ofKind_congr (h : ∀ name ∈ kind.propertyNames, ps.get? name = qs.get? name) :
    ofKind kind ps = ofKind kind qs := by
  cases kind <;> simp only [AuthType.propertyNames, List.forall_mem_cons] at h <;>
    simp only [ofKind, h]

theorem ofProperties_congr (h : ∀ name, Properties.IsKnown name → ps.get? name = qs.get? name) :
    ofProperties ps = ofProperties qs := by
  have hkind : ps.kind = qs.kind := by rw [Properties.kind, h _ (.inl rfl), Properties.kind]
  rw [ofProperties_eq, ofProperties_eq, hkind]
  congr 1
  funext kind
  exact ofKind_congr fun name hname => h name (.inr ⟨kind, hname⟩)

/-- **Described by last values.** Two lists of properties that say the same, or of which one is a
rearranged form of the other, describe the same configuration or fail alike. Every list selects a
kind or fails; and the configuration of a kind that is selected depends on nothing but what is said
of the names of the kind. -/
theorem described_by_last_values :
    (∀ ps qs : Properties, (∀ name value, ps.Says name value ↔ qs.Says name value) →
      ofProperties ps = ofProperties qs) ∧
    (∀ ps qs : Properties, ps.Rearranged qs → ofProperties ps = ofProperties qs) ∧
    (∀ ps : Properties,
      (∃ kind, ps.Selects (.ok kind)) ∨ ∃ failure, ps.Selects (.error failure) ∧
        ofProperties ps = .error failure) ∧
    (∀ (ps : Properties) kind, ps.Selects (.ok kind) →
      ofProperties ps = ofKind kind ps ∧ (∀ c, ofProperties ps = .ok c → c.kind = kind) ∧
      ∀ qs : Properties, qs.Selects (.ok kind) →
        (∀ name ∈ kind.propertyNames, ∀ value, ps.Says name value ↔ qs.Says name value) →
        ofProperties ps = ofProperties qs) := by
  have hselected (ps : Properties) (kind) (h : ps.Selects (.ok kind)) :
      ofProperties ps = ofKind kind ps := by
    rw [ofProperties_eq, Properties.kind_eq_iff.mpr h]
    rfl
  refine ⟨fun ps qs h => ?_, fun ps qs h => ?_, fun ps => ?_, fun ps kind h => ?_⟩
  · exact ofProperties_congr fun name _ => Properties.get?_congr (h name)
  · exact ofProperties_congr fun name => h.get?_eq
  · have hkind := ps.selects_kind
    rcases hps : ps.kind with failure | kind
    · rw [hps] at hkind
      refine .inr ⟨failure, hkind, ?_⟩
      rw [ofProperties_eq, hps]
      rfl
    · rw [hps] at hkind
      exact .inl ⟨kind, hkind⟩
  · refine ⟨hselected ps kind h, fun c hc => ?_, fun qs hqs hsaid => ?_⟩
    · rw [hselected ps kind h] at hc
      exact kind_of_ofKind hc
    · rw [hselected ps kind h, hselected qs kind hqs]
      exact ofKind_congr fun name hname => Properties.get?_congr (hsaid name hname)

/-- Properties for a user name, with an earlier one, an empty one and an API key that is not
valid. -/
def crowdedProperties : Properties :=
  [("APIKEY", "\x7bkey"), ("USERNAME", "guest"), ("AUTH_TYPE", " BASIC "), ("USERNAME", "user"),
    ("PASSWORD", "pass"), ("USERNAME", "")]

/-- The same in few words. -/
def plainProperties : Properties :=
  [("USERNAME", "user"), ("PASSWORD", "pass"), ("AUTH_TYPE", "basic")]

/-- **Crowded properties** describe the same as plain ones. -/
theorem described_by_last_values_of_crowded :
    crowdedProperties.Selects (.ok .basic) ∧ plainProperties.Selects (.ok .basic) ∧
      ofProperties crowdedProperties = ofProperties plainProperties ∧
      ofProperties crowdedProperties = .ok (.basic ⟨"user", ⟨"pass"⟩⟩) := by
  have hcrowded : crowdedProperties.Selects (.ok .basic) :=
    .known (Properties.get?_eq_some_iff.mp (by decide +kernel : _ = some " BASIC ")) rfl
  have hplain : plainProperties.Selects (.ok .basic) :=
    .known (Properties.get?_eq_some_iff.mp (by decide +kernel : _ = some "basic")) rfl
  have hget : ∀ name ∈ AuthType.basic.propertyNames,
      crowdedProperties.get? name = plainProperties.get? name := by decide +kernel
  have hsaid : ∀ name ∈ AuthType.basic.propertyNames, ∀ value,
      crowdedProperties.Says name value ↔ plainProperties.Says name value := by
    intro name hname value
    rw [← Properties.get?_eq_some_iff, hget name hname, Properties.get?_eq_some_iff]
  obtain ⟨-, -, -, hselected⟩ := described_by_last_values
  obtain ⟨hvalue, -, hagree⟩ := hselected crowdedProperties .basic hcrowded
  have hparts : ofKind .basic crowdedProperties = .ok (.basic ⟨"user", ⟨"pass"⟩⟩) :=
    eq_ok_of_toOption (by decide +kernel)
  exact ⟨hcrowded, hplain, hagree plainProperties hplain hsaid, hvalue.trans hparts⟩

end AuthConfig

end Outbound
