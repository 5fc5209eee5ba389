import Bootstrap.Artifact
import Bootstrap.Corpus

/-!
What stops a generation from being built, what stops a whole run, and the report of it.
-/

namespace Bootstrap

/-- A blocked generation keeps the failure of the generation it rests on as its cause. -/
inductive StageError where
  | snapshot (path : Path) (reason : String)
  | source (stage : Stage) (path : Path) (reason : String)
  | compile (stage : Stage) (error : CompileError)
  | dependency (stage : Stage) (cause : StageError)
  deriving DecidableEq, Repr

namespace StageError

def stage : StageError → Stage
  | .snapshot _ _ => .stage0
  | .source stage _ _ => stage
  | .compile stage _ => stage
  | .dependency stage _ => stage

def rootStage : StageError → Stage
  | .dependency _ cause => cause.rootStage
  | other => other.stage

def blocking (error : StageError) (stage : Stage) : StageError :=
  match error with
  | .dependency _ cause => .dependency stage cause
  | root => .dependency stage root

def isDependency : StageError → Bool
  | .dependency _ _ => true
  | _ => false

def message : StageError → String
  | .snapshot path reason => "cannot load snapshot '" ++ path.text ++ "': " ++ reason
  | .source stage path reason =>
      stage.name ++ ": cannot read compiler source '" ++ path.text ++ "': " ++ reason
  | .compile stage error => stage.name ++ " build failed: " ++ error.diagnostic
  | .dependency stage cause => stage.name ++ " unavailable because " ++ cause.message

def kind : StageError → String
  | .snapshot _ _ => "SnapshotError"
  | .source _ _ _ => "SourceError"
  | .compile _ _ => "CompileError"
  | .dependency _ cause => cause.kind

end StageError

structure Mismatch where
  stage : Stage
  next : Stage
  stageSize : Nat
  nextSize : Nat
  firstDifference : Nat
  deriving DecidableEq, Repr

namespace Mismatch

/-- The first offset at which two byte sequences differ, or the length of the shorter one. -/
def firstDifferenceOf : Bytes → Bytes → Nat
  | left :: lefts, right :: rights =>
      if left = right then firstDifferenceOf lefts rights + 1 else 0
  | _, _ => 0

def compare? (stage next : Stage) (current again : Bytes) : Option Mismatch :=
  if current = again then none
  else some ⟨stage, next, current.length, again.length, firstDifferenceOf current again⟩

def message (mismatch : Mismatch) : String :=
  "fixpoint mismatch: " ++ mismatch.stage.name ++ " (" ++ toString mismatch.stageSize ++
    " bytes) and " ++ mismatch.next.name ++ " (" ++ toString mismatch.nextSize ++
    " bytes) first differ at byte " ++ toString mismatch.firstDifference

end Mismatch

inductive RunError where
  | stageBuild (error : StageError)
  | fixpoint (mismatch : Mismatch)
  | corpus (error : CorpusError)
  | settings (message : String)
  deriving DecidableEq, Repr

structure ErrorReport where
  phase : String
  kind : String
  message : String
  stage : Option Stage
  deriving DecidableEq, Repr

namespace ErrorReport

def line (report : ErrorReport) : String :=
  match report.stage with
  | some stage => "[" ++ stage.name ++ "] " ++ report.phase ++ " error: " ++ report.message
  | none => "[" ++ report.phase ++ "] error: " ++ report.message

def toJson (report : ErrorReport) : Json :=
  .object
    [("phase", .string report.phase), ("error_kind", .string report.kind),
      ("message", .string report.message),
      ("stage", match report.stage with
        | some stage => .string stage.name
        | none => .null)]

end ErrorReport

namespace RunError

def message : RunError → String
  | .stageBuild error => error.message
  | .fixpoint mismatch => mismatch.message
  | .corpus error => error.message
  | .settings message => "configuration error: " ++ message

def report : RunError → ErrorReport
  | .stageBuild error => ⟨"stage_build", error.kind, error.message, some error.rootStage⟩
  | .fixpoint mismatch => ⟨"fixpoint", "FixpointMismatch", mismatch.message, some mismatch.next⟩
  | .corpus (.unreadable path error) =>
      ⟨"corpus", error.kind, (CorpusError.unreadable path error).message, none⟩
  | .settings message => ⟨"config", "ConfigError", message, none⟩

end RunError

end Bootstrap
