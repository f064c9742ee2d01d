import Outbound.Pipeline.Throttled

/-!
# Pipelines

A pipeline takes a request to its response: default headers, credentials, interceptors, transport.

* **settings** — a pipeline is put together from settings; of those about the same thing the last
  one counts, and interceptors add up;
* **order** — compression comes first, then the treatment of throttled answers, then the user's
  interceptors in the order in which they were added;
* **sending** — `send` answers any response, `execute` turns an unsuccessful one into a failure.
-/

namespace Outbound

/-- **Pipelines.** -/
structure Pipeline where
  authenticator : Authenticator
  compresses : Bool
  retries : Option RetryPolicy
  custom : List Interceptor
  defaults : Headers

/-- **Settings of a pipeline.** -/
inductive Setting
  | gzip (enabled : Bool)
  | retries (policy : RetryPolicy)
  | withoutRetries
  | defaultHeader (name : HeaderName) (value : HeaderValue)
  | interceptor (i : Interceptor)

namespace Pipeline

/-- A pipeline that only authenticates. -/
def new (a : Authenticator) : Pipeline := ⟨a, false, none, [], .empty⟩

/-- Applies one setting. -/
def set (p : Pipeline) : Setting → Pipeline
  | .gzip enabled => { p with compresses := enabled }
  | .retries policy => { p with retries := some policy }
  | .withoutRetries => { p with retries := none }
  | .defaultHeader name value => { p with defaults := p.defaults.insert name value }
  | .interceptor i => { p with custom := p.custom ++ [i] }

/-- **The pipeline of settings**, applied in order. -/
def build (a : Authenticator) (settings : List Setting) : Pipeline := settings.foldl set (new a)

variable (p : Pipeline)

/-- What the pipeline does about throttled answers. -/
def throttle? : Option Throttle := p.retries.map fun policy => ⟨p.authenticator, policy⟩

/-- **The interceptors**, outermost first. -/
def interceptors (rounds : Nat) : List Interceptor :=
  (if p.compresses then [Interceptor.gzip] else []) ++
    (p.throttle?.toList.map fun h => h.interceptor rounds) ++
    p.custom.map Interceptor.recorded

/-- The names of the interceptors, outermost first. -/
def interceptorNames : List String := (p.interceptors 0).map (·.name)

/-! ## Sending -/

/-- **Default headers**: each is added unless the request has one of its name. -/
def prepare (r : Request) : Request :=
  { r with
    headers := p.defaults.entries.foldl (fun h (name, value) => h.insertIfAbsent name value)
      r.headers }

/-- **The first credentials** of a call. -/
def authenticate (r : Request) : Act (Except Failure Unit × Request) := do
  Act.record (.opened .authenticate "pipeline_send")
  Act.record (.counted .authenticate .attempt)
  let (result, r) ← p.authenticator.call r
  Act.record (.counted .authenticate (.ofResult result))
  return (result, r)

/-- **Sending.** Every response is an outcome, also an unsuccessful one. A call that is throttled is
followed for at most so many rounds. -/
def send (t : Transport) (rounds : Nat) (r : Request) : Act Outcome := do
  match ← p.authenticate (p.prepare r) with
  | (.ok (), r) => (chain t (p.interceptors rounds)).run r
  | (.error f, _) => return .failure f

/-- **Sending**, where an unsuccessful response is a failure. -/
def execute (t : Transport) (rounds : Nat) (r : Request) : Act Outcome :=
  (·.andThen Response.successful) <$> p.send t rounds r

/-! ## Diagnostics -/

/-- The settings as diagnostics show them. -/
def settingsText : String :=
  let retries := match p.retries with
    | none => "None"
    | some policy => s!"Some({policy.text})"
  s!"PipelineBuilder \x7b authenticator: {p.authenticator.kind.identifier}, " ++
    s!"gzip: {p.compresses}, rate_limit: {retries}, " ++
    s!"custom: {Text.quoteList (p.custom.map (·.name))} \x7d"

/-- The pipeline as diagnostics show it. -/
def text : String :=
  s!"Pipeline \x7b authenticator: {p.authenticator.kind.identifier}, " ++
    s!"interceptors: {Text.quoteList p.interceptorNames}, " ++
    s!"default_headers: {Text.quoteList (p.defaults.names.map (·.text))} \x7d"

end Pipeline

end Outbound
