import Mathlib.Data.List.Induction
import Outbound.Pipeline.Assembly

/-!
# What settings come to

A pipeline is built from settings, one after another. What a setting says about one thing is read
off by a function, and what all of them come to is the last thing that was said about it.

* **reading** — `Setting.compression?`, `Setting.treatment?`, `Setting.default?` and
  `Setting.interceptor?`;
* **building** — `build_concat` adds one setting, and the lemmas `*_build` say what each part of the
  pipeline is in the end;
* **defaults** — `values_prepare` says what a request has of each name once it is prepared, and
  `ordinaryValues` the same in terms of the settings.
-/

namespace Outbound

/-! ## Reading settings -/

namespace Setting

/-- Whether to compress, if a setting says so. -/
def compression? : Setting → Option Bool
  | .gzip enabled => some enabled
  | _ => none

/-- What to do about throttled answers, if a setting says so. -/
def treatment? : Setting → Option (Option RetryPolicy)
  | .retries policy => some (some policy)
  | .withoutRetries => some none
  | _ => none

/-- The value for a name, if a setting gives one. -/
def default? (name : HeaderName) : Setting → Option HeaderValue
  | .defaultHeader n value => if n = name then some value else none
  | _ => none

/-- The interceptor that a setting adds. -/
def interceptor? : Setting → Option Interceptor
  | .interceptor i => some i
  | _ => none

/-- **The last word** of settings on one thing. -/
def last? {α : Type} (read : Setting → Option α) (settings : List Setting) : Option α :=
  (settings.filterMap read).getLast?

theorem last?_concat {α : Type} (read : Setting → Option α) (settings : List Setting)
    (setting : Setting) :
    last? read (settings ++ [setting]) = (read setting).or (last? read settings) := by
  rw [last?, List.filterMap_append, List.getLast?_append]
  cases h : read setting <;> simp [h, last?]

/-- Whether settings come to compressing. -/
def compress (settings : List Setting) : Bool := (last? compression? settings).getD false

/-- What settings come to doing about throttled answers. -/
def throttle? (a : Authenticator) (settings : List Setting) : Option Throttle :=
  (last? treatment? settings).join.map fun policy => ⟨a, policy⟩

end Setting

/-! ## Building -/

namespace Pipeline

variable (a : Authenticator) (settings : List Setting)

/-- **One more setting** is applied to the pipeline of those before it. -/
theorem build_concat (setting : Setting) :
    build a (settings ++ [setting]) = (build a settings).set setting := List.foldl_append

/-- The authenticator is no matter of settings. -/
theorem authenticator_build : (build a settings).authenticator = a := by
  induction settings using List.reverseRecOn with
  | nil => rfl
  | append_singleton settings setting ih =>
    rw [build_concat]
    cases setting <;> exact ih

/-- **Compression** is as was said last, and off if nothing was said. -/
theorem compresses_build : (build a settings).compresses = Setting.compress settings := by
  induction settings using List.reverseRecOn with
  | nil => rfl
  | append_singleton settings setting ih =>
    rw [build_concat, Setting.compress, Setting.last?_concat]
    cases setting <;> first | rfl | exact ih

/-- **Throttled answers** are dealt with as was said last, and not at all if nothing was said. -/
theorem retries_build :
    (build a settings).retries = (Setting.last? Setting.treatment? settings).join := by
  induction settings using List.reverseRecOn with
  | nil => rfl
  | append_singleton settings setting ih =>
    rw [build_concat, Setting.last?_concat]
    cases setting <;> first | rfl | exact ih

theorem throttle?_build : (build a settings).throttle? = Setting.throttle? a settings := by
  rw [throttle?, retries_build, authenticator_build]
  rfl

/-- **Interceptors** add up in order. -/
theorem custom_build :
    (build a settings).custom = settings.filterMap Setting.interceptor? := by
  induction settings using List.reverseRecOn with
  | nil => rfl
  | append_singleton settings setting ih =>
    rw [build_concat, List.filterMap_append, ← ih]
    cases setting <;> first | rfl | exact (List.append_nil _).symm

/-- **Default headers**: of each name there is the value that was given last. -/
theorem values_defaults_build (name : HeaderName) :
    (build a settings).defaults.values name =
      (Setting.last? (Setting.default? name) settings).toList := by
  induction settings using List.reverseRecOn with
  | nil => rfl
  | append_singleton settings setting ih =>
    rw [build_concat, Setting.last?_concat]
    cases setting with
    | defaultHeader n value =>
      by_cases hn : n = name
      · subst hn
        simp [set, Setting.default?]
      · have hne : name ≠ n := Ne.symm hn
        simp [set, Setting.default?, hn, Headers.values_insert_of_ne hne, ih]
    | _ => exact ih

end Pipeline

/-! ## Defaults -/

namespace Headers

theorem contains_iff {h : Headers} {name : HeaderName} :
    h.contains name = true ↔ h.values name ≠ [] := by
  rw [contains, Bool.not_eq_true', List.isEmpty_eq_false_iff]

theorem values_of_not_contains {h : Headers} {name : HeaderName} (hname : ¬ h.contains name) :
    h.values name = [] :=
  Decidable.of_not_not fun hvalues => hname (contains_iff.mpr hvalues)

/-- **Adding a value** unless the name is there. -/
theorem values_insertIfAbsent (h : Headers) (name other : HeaderName) (v : HeaderValue) :
    (h.insertIfAbsent name v).values other =
      if h.contains other then h.values other else if name = other then [v] else [] := by
  rw [insertIfAbsent]
  by_cases hname : h.contains name
  · rw [if_pos hname]
    by_cases hother : h.contains other
    · rw [if_pos hother]
    · have hne : name ≠ other := by
        rintro rfl
        exact hother hname
      rw [if_neg hother, if_neg hne, values_of_not_contains hother]
  · rw [if_neg hname]
    by_cases hne : name = other
    · subst hne
      rw [if_neg hname, if_pos rfl, values_insert_self]
    · rw [values_insert_of_ne (Ne.symm hne)]
      by_cases hother : h.contains other
      · rw [if_pos hother]
      · rw [if_neg hother, if_neg hne, values_of_not_contains hother]

/-- **Adding entries** one after another: a name that is not there gets the first value for it. -/
theorem values_foldl_insertIfAbsent (es : List (HeaderName × HeaderValue)) (h : Headers)
    (name : HeaderName) :
    (es.foldl (fun h (name, value) => h.insertIfAbsent name value) h).values name =
      if h.contains name then h.values name
      else ((⟨es⟩ : Headers).get? name).toList := by
  induction es generalizing h with
  | nil =>
    by_cases hname : h.contains name
    · rw [if_pos hname, List.foldl_nil]
    · rw [if_neg hname, List.foldl_nil, values_of_not_contains hname]
      rfl
  | cons e es ih =>
    obtain ⟨n, value⟩ := e
    rw [List.foldl_cons, ih]
    have hadd := values_insertIfAbsent h n name value
    by_cases hname : h.contains name
    · rw [if_pos hname] at hadd
      have hthere : (h.insertIfAbsent n value).contains name := by
        rw [contains_iff, hadd]
        exact contains_iff.mp hname
      rw [if_pos hthere, hadd, if_pos hname]
    · rw [if_neg hname] at hadd
      rw [if_neg hname]
      by_cases hn : n = name
      · rw [if_pos hn] at hadd
        have hthere : (h.insertIfAbsent n value).contains name := by
          rw [contains_iff, hadd]
          exact List.cons_ne_nil _ _
        rw [if_pos hthere, hadd]
        simp [get?, values, hn]
      · rw [if_neg hn] at hadd
        have hmissing : ¬ (h.insertIfAbsent n value).contains name := by
          rw [contains_iff, hadd]
          exact not_not_intro rfl
        rw [if_neg hmissing]
        simp [get?, values, hn]

end Headers

/-- **A prepared request** has its own values of a name, or else the default. -/
theorem Pipeline.values_prepare (p : Pipeline) (r : Request) (name : HeaderName) :
    (p.prepare r).headers.values name =
      if r.headers.contains name then r.headers.values name
      else (p.defaults.get? name).toList :=
  Headers.values_foldl_insertIfAbsent p.defaults.entries r.headers name

/-- **The ordinary rule** for the values of a name: those of the request if it has any, else the
value of the last setting that gives one, else none. -/
def Setting.ordinaryValues (settings : List Setting) (r : Request) (name : HeaderName) :
    List HeaderValue :=
  if r.headers.contains name then r.headers.values name
  else (last? (default? name) settings).toList

theorem Pipeline.values_prepare_build (a : Authenticator) (settings : List Setting) (r : Request)
    (name : HeaderName) :
    ((build a settings).prepare r).headers.values name =
      Setting.ordinaryValues settings r name := by
  rw [values_prepare, Headers.get?, values_defaults_build, Setting.ordinaryValues]
  cases Setting.last? (Setting.default? name) settings <;> rfl

end Outbound
