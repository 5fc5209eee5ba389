import Bootstrap.Fixpoint
import Bootstrap.Trials

/-!
A whole run: find the tests, try them against every tested generation, then check the fixpoint.
-/

namespace Bootstrap

structure Summary where
  trials : TrialReport
  fixpoint : Convergence
  deriving DecidableEq, Repr

namespace Convergence

def toJson : Convergence → Json
  | .skipped => .object [("status", .string "skipped")]
  | .converged stage next size digest =>
      .object
        [("status", .string "converged"), ("stage", .string stage.name), ("next", .string next.name),
          ("len", .number size), ("digest", .number digest.toNat)]

end Convergence

namespace Summary

def passed (summary : Summary) : Bool :=
  summary.trials.passed

def toJson (summary : Summary) : Json :=
  .object (summary.trials.members ++ [("fixpoint", summary.fixpoint.toJson)])

end Summary

namespace Verification

variable {World Engine Value : Type}

def isSelected (filter : Option String) (test : TestCase) : Bool :=
  match filter with
  | some text => Text.contains test.name text
  | none => true

def tellFilter (env : Environment World Engine Value) (filter : Option String) (count : Nat) :
    Run World Unit :=
  match filter with
  | some text =>
      Run.say env .info Log.Target.run
        ("filter '" ++ text ++ "' selected " ++ toString count ++ " tests")
  | none => return ()

def heading (settings : Settings) (count : Nat) : String :=
  toString count ++ " tests against " ++
    ", ".intercalate (settings.selection.tested.map Stage.name)

def runSelected (env : Environment World Engine Value) (settings : Settings)
    (tests : List TestCase) : Run World (Except RunError Summary) := do
  if tests.isEmpty then
    Run.say env .warn Log.Target.run ("no tests in " ++ settings.corpus.dir.text)
  Run.push (.info (heading settings tests.length))
  let trials ← Trials.run env settings tests
  match ← Fixpoint.verify env settings settings.selection with
  | .error error => return .error error
  | .ok proof =>
      Run.push (.fixpoint proof)
      Run.say env .info Log.Target.run "Run completed"
      return .ok ⟨trials, proof⟩

def run (env : Environment World Engine Value) (settings : Settings) (filter : Option String) :
    Run World (Result RunError Summary) := do
  Run.say env .info Log.Target.run "Starting run"
  match ← Run.perform env (Corpus.discover env.files settings.corpus) with
  | .error error => return .error (.corpus error)
  | .crash => return .crash
  | .ok cases =>
      let tests := cases.filter (isSelected filter)
      tellFilter env filter tests.length
      return .ofExcept (← runSelected env settings tests)

end Verification

end Bootstrap
