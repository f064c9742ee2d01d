/-!
# Stages

The points of a call that are counted and shown in diagnostics.

* **stages** — putting credentials on a request, fetching a token, sending again after a throttled
  answer;
* **progress** — each stage counts its attempts, and how they end;
* **names** — of the counter, of its labels and of the span that surrounds a stage.
-/

namespace Outbound

/-- **Stages of a call.** -/
inductive Stage
  | authenticate
  | tokenRequest
  | rateLimitRetry
  deriving DecidableEq, Repr

namespace Stage

/-- All stages. -/
def all : List Stage := [.authenticate, .tokenRequest, .rateLimitRetry]

/-- The label of a stage. -/
def label : Stage → String
  | .authenticate => "authenticate"
  | .tokenRequest => "token_request"
  | .rateLimitRetry => "rate_limit_retry"

/-- The counter of all stages. -/
def counterName : String := "sdk_pipeline_stage_total"

/-- The span around a stage. -/
def spanName : String := "sdk_pipeline.stage"

end Stage

/-- **How far a stage got.** -/
inductive Progress
  | attempt
  | success
  | failure
  deriving DecidableEq, Repr

namespace Progress

/-- Every kind of progress. -/
def all : List Progress := [.attempt, .success, .failure]

/-- The label of a progress. -/
def label : Progress → String
  | .attempt => "attempt"
  | .success => "success"
  | .failure => "failure"

/-- How a stage ended. -/
def ofResult {ε α : Type} : Except ε α → Progress
  | .ok _ => .success
  | .error _ => .failure

end Progress

end Outbound
