import Bootstrap.Attempt
import Bootstrap.Table

/-!
Failures grouped by test, each test's failures ascending by generation.
-/

namespace Bootstrap

structure StageFailure where
  stage : Stage
  kind : FailureKind
  diagnostic : String
  deriving DecidableEq, Repr

namespace StageFailure

def toJson (failure : StageFailure) : Json :=
  .object
    [("stage", .string failure.stage.name), ("kind", .string failure.kind.key),
      ("diagnostic", .string failure.diagnostic)]

/-- Places a failure behind those of its own and of lower generations. -/
def insertSorted (failure : StageFailure) : List StageFailure → List StageFailure
  | [] => [failure]
  | other :: rest =>
      if other.stage ≤ failure.stage then other :: insertSorted failure rest
      else failure :: other :: rest

end StageFailure

/-- A test that is absent passed wherever it was tried. -/
structure FailureReport where
  failures : Table String (List StageFailure)
  deriving DecidableEq, Repr

namespace FailureReport

def empty : FailureReport :=
  ⟨[]⟩

def failuresFor? (report : FailureReport) (test : String) : Option (List StageFailure) :=
  report.failures.get? test

def record (report : FailureReport) (attempt : Attempt) : FailureReport :=
  match attempt.outcome with
  | .passed _ => report
  | .failed failure =>
      let present := (report.failuresFor? attempt.test).getD []
      let added : StageFailure := ⟨attempt.stage, failure.kind, failure.diagnostic⟩
      ⟨report.failures.insert attempt.test (added.insertSorted present)⟩

def ofAttempts (attempts : List Attempt) : FailureReport :=
  attempts.foldl record empty

def isEmpty (report : FailureReport) : Bool :=
  report.failures.isEmpty

def size (report : FailureReport) : Nat :=
  report.failures.length

def failedStages (report : FailureReport) (test : String) : List Stage :=
  ((report.failuresFor? test).getD []).map StageFailure.stage

def toJson (report : FailureReport) : Json :=
  .object
    [("failures", .object
      (report.failures.map fun entry => (entry.1, .array (entry.2.map StageFailure.toJson))))]

end FailureReport

structure TrialReport where
  attempts : List Attempt
  report : FailureReport
  buildFailures : List StageFailure
  deriving DecidableEq, Repr

namespace TrialReport

def passed (trials : TrialReport) : Bool :=
  trials.report.isEmpty && trials.buildFailures.isEmpty

def members (trials : TrialReport) : List (String × Json) :=
  [("attempts", .array (trials.attempts.map Attempt.toJson)), ("report", trials.report.toJson),
    ("stage_build_failures", .array (trials.buildFailures.map StageFailure.toJson))]

def toJson (trials : TrialReport) : Json :=
  .object trials.members

end TrialReport

end Bootstrap
