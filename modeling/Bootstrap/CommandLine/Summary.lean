import Bootstrap.Bulletin

/-!
What the command line prints after a run, rebuilt from the entries of the run.
-/

namespace Bootstrap

namespace CommandLine

structure Tally where
  attempts : List Attempt
  report : FailureReport
  buildFailures : List (Stage × String)
  deriving DecidableEq, Repr

namespace Tally

def ofEntries (entries : List Entry) : Tally :=
  let attempts := entries.filterMap Entry.attempt?
  ⟨attempts, .ofAttempts attempts, entries.filterMap Entry.buildFailure?⟩

def buildLines (tally : Tally) : List String :=
  if tally.buildFailures.isEmpty then []
  else
    "Stage build failures:" ::
      tally.buildFailures.map fun failure => "  " ++ failure.1.name ++ ": " ++ failure.2

def testLine (entry : String × List StageFailure) : String :=
  "  " ++ entry.1 ++ ": " ++
    ", ".intercalate (entry.2.map fun failure => failure.stage.name)

def testLines (tally : Tally) : List String :=
  if tally.report.isEmpty then []
  else "Failing tests:" :: tally.report.failures.map testLine

def lines (tally : Tally) : List String :=
  ["", "== Summary ==",
    toString tally.attempts.length ++ " attempts, " ++ toString tally.report.size ++
      " failing tests"] ++
    tally.buildLines ++ tally.testLines

end Tally

def proofLine : Convergence → String
  | .skipped => "Fixpoint: skipped"
  | .converged stage next _ _ => "Fixpoint: " ++ stage.name ++ " == " ++ next.name

def resultLines : Except RunError Summary → List String
  | .ok summary =>
      [proofLine summary.fixpoint, if summary.passed then "PASSED" else "FAILED"]
  | .error _ => ["ABORTED"]

def succeeded : Except RunError Summary → Bool
  | .ok summary => summary.passed
  | .error _ => false

def textLines (entries : List Entry) (result : Except RunError Summary) : List String :=
  entries.filterMap Entry.line? ++ (Tally.ofEntries entries).lines ++ resultLines result

def complaintLines : Except RunError Summary → List String
  | .ok _ => []
  | .error error => ["❌ " ++ error.message]

/-- A run as one value; an aborted one keeps the attempts made until then. -/
def jsonOf (entries : List Entry) : Except RunError Summary → Json
  | .ok summary => summary.toJson
  | .error error =>
      .object
        [("error", error.report.toJson),
          ("attempts", .array ((entries.filterMap Entry.attempt?).map Attempt.toJson))]

def joinLines (lines : List String) : String :=
  String.join (lines.map fun line => line ++ "\n")

end CommandLine

end Bootstrap
