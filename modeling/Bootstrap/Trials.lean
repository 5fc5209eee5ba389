import Bootstrap.Ladder

/-!
Running tests against every tested generation, test by test; whatever goes wrong inside one attempt
stays in that attempt.
-/

namespace Bootstrap

namespace Trials

variable {World Engine Value : Type}

/-- A tested generation with its compiler, or with the diagnostic of why there is none. -/
abbrev Candidate (World : Type) := Stage × Except String (Compiler World)

/-- Asks for a tested generation; one that cannot be built is reported here, once. -/
def prepare (env : Environment World Engine Value) (settings : Settings) (stage : Stage) :
    Run World (Candidate World) := do
  match ← Ladder.compiler env settings stage with
  | .ok compiler => return (stage, .ok compiler)
  | .error error =>
      Run.push (.buildFailed stage error.message)
      return (stage, .error error.message)

def prepareAll (env : Environment World Engine Value) (settings : Settings) :
    List Stage → Run World (List (Candidate World))
  | [] => return []
  | stage :: stages => do
      let first ← prepare env settings stage
      let rest ← prepareAll env settings stages
      return first :: rest

def buildFailure? : Candidate World → Option StageFailure
  | (_, .ok _) => none
  | (stage, .error diagnostic) => some ⟨stage, .stageUnavailable, diagnostic⟩

def outcome (env : Environment World Engine Value) (settings : Settings) (test : TestCase) :
    Except String (Compiler World) → Run World Outcome
  | .ok compiler =>
      Run.perform env (Trial.attempt env.engines compiler settings.toolchain test)
  | .error diagnostic => return .failed ⟨.stageUnavailable, diagnostic⟩

def announce (env : Environment World Engine Value) (attempt : Attempt) : Run World Unit :=
  Run.say env (if attempt.outcome.isPassed then .debug else .warn) Log.Target.trials attempt.line

def attempt (env : Environment World Engine Value) (settings : Settings) (test : TestCase)
    (candidate : Candidate World) : Run World Attempt := do
  let outcome ← outcome env settings test candidate.2
  let attempt : Attempt := ⟨test.name, candidate.1, outcome⟩
  announce env attempt
  Run.push (.attempt attempt)
  return attempt

def attemptAll (env : Environment World Engine Value) (settings : Settings) :
    List (TestCase × Candidate World) → Run World (List Attempt)
  | [] => return []
  | (test, candidate) :: rest => do
      let first ← attempt env settings test candidate
      let others ← attemptAll env settings rest
      return first :: others

def pairs (tests : List TestCase) (candidates : List (Candidate World)) :
    List (TestCase × Candidate World) :=
  tests.flatMap fun test => candidates.map fun candidate => (test, candidate)

def runTests (env : Environment World Engine Value) (settings : Settings) (tests : List TestCase) :
    Run World TrialReport := do
  let tested := settings.selection.tested
  Run.say env .info Log.Target.trials
    ("running " ++ toString tests.length ++ " tests against " ++ toString tested.length ++ " stages")
  let candidates ← prepareAll env settings tested
  let attempts ← attemptAll env settings (pairs tests candidates)
  let report := FailureReport.ofAttempts attempts
  Run.say env .info Log.Target.trials
    (toString attempts.length ++ " attempts, " ++ toString report.size ++ " failing tests")
  return ⟨attempts, report, candidates.filterMap buildFailure?⟩

def run (env : Environment World Engine Value) (settings : Settings) (tests : List TestCase) :
    Run World TrialReport :=
  Run.within "run_tests" (runTests env settings tests)

end Trials

end Bootstrap
