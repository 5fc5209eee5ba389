import Bootstrap.Corpus

/-!
One test run against one generation: how it ended, and why it failed if it did.
-/

namespace Bootstrap

inductive FailureKind where
  | compile
  | load
  | trap
  | marshal
  | returnedFalse
  | stageUnavailable
  deriving DecidableEq, Repr

namespace FailureKind

def all : List FailureKind :=
  [.compile, .load, .trap, .marshal, .returnedFalse, .stageUnavailable]

def text : FailureKind → String
  | .compile => "compile"
  | .load => "load"
  | .trap => "trap"
  | .marshal => "marshal"
  | .returnedFalse => "returned false"
  | .stageUnavailable => "stage unavailable"

def key : FailureKind → String
  | .compile => "compile"
  | .load => "load"
  | .trap => "trap"
  | .marshal => "marshal"
  | .returnedFalse => "returned_false"
  | .stageUnavailable => "stage_unavailable"

def ofKey? (key : String) : Option FailureKind :=
  all.find? fun kind => kind.key = key

end FailureKind

structure AttemptFailure where
  kind : FailureKind
  diagnostic : String
  deriving DecidableEq, Repr

namespace AttemptFailure

def ofCompileError (error : CompileError) : AttemptFailure :=
  ⟨.compile, error.diagnostic⟩

/-- An engine that cannot even start counts as a failed load and keeps the whole message. -/
def ofFault : Fault → AttemptFailure
  | .instantiate diagnostic => ⟨.load, (Fault.instantiate diagnostic).message⟩
  | .load diagnostic => ⟨.load, diagnostic⟩
  | .trap diagnostic => ⟨.trap, diagnostic⟩
  | .marshal diagnostic => ⟨.marshal, diagnostic⟩

end AttemptFailure

inductive Outcome where
  | passed (value : Verdict)
  | failed (failure : AttemptFailure)
  deriving DecidableEq, Repr

namespace Outcome

def isPassed : Outcome → Bool
  | .passed _ => true
  | .failed _ => false

def failure? : Outcome → Option AttemptFailure
  | .passed _ => none
  | .failed failure => some failure

def toJson : Outcome → Json
  | .passed value => .object [("status", .string "passed"), ("value", value.toJson)]
  | .failed failure =>
      .object
        [("status", .string "failed"), ("kind", .string failure.kind.key),
          ("diagnostic", .string failure.diagnostic)]

end Outcome

structure Attempt where
  test : String
  stage : Stage
  outcome : Outcome
  deriving DecidableEq, Repr

namespace Attempt

def line (attempt : Attempt) : String :=
  match attempt.outcome with
  | .passed _ => attempt.test ++ ": " ++ attempt.stage.name ++ " succeeded"
  | .failed failure =>
      attempt.test ++ ": " ++ attempt.stage.name ++ " failed (" ++ failure.kind.text ++ "): " ++
        failure.diagnostic

def toJson (attempt : Attempt) : Json :=
  .object
    [("test", .string attempt.test), ("stage", .string attempt.stage.name),
      ("outcome", attempt.outcome.toJson)]

end Attempt

namespace Trial

variable {World Engine Value : Type}

def call (kit : EngineKit World Engine Value) (entryExport : String) (module : Bytes)
    (engine : Engine) : Act World (Except AttemptFailure Verdict × Engine) := do
  let (loaded, engine) ← kit.load module engine
  match loaded with
  | .error fault => return (.error (.ofFault fault), engine)
  | .ok () =>
      let (result, engine) ← kit.invoke entryExport engine
      match result with
      | .error fault => return (.error (.ofFault fault), engine)
      | .ok value =>
          match kit.marshal engine value with
          | .error fault => return (.error (.ofFault fault), engine)
          | .ok verdict => return (.ok verdict, engine)

def compileAndCall (kit : EngineKit World Engine Value) (compiler : Compiler World)
    (entryExport : String) (test : TestCase) (engine : Engine) :
    Act World (Except AttemptFailure Verdict × Engine) := do
  match ← compiler test.source with
  | .error error => return (.error (.ofCompileError error), engine)
  | .ok module => call kit entryExport module engine

def withInput (kit : EngineKit World Engine Value) (input : Option Bytes) (engine : Engine) : Engine :=
  match input with
  | some bytes => kit.bindInput bytes engine
  | none => engine

/-- One attempt: the test's engine comes first and has its input before the test is compiled. -/
def execute (kit : EngineKit World Engine Value) (compiler : Compiler World) (entryExport : String)
    (test : TestCase) : Act World (Except AttemptFailure Verdict) := do
  match ← kit.instantiate with
  | .error fault => return .error (.ofFault fault)
  | .ok fresh =>
      let (result, engine) ←
        compileAndCall kit compiler entryExport test (withInput kit test.input fresh)
      kit.release engine
      return result

def outcome (toolchain : Toolchain) : Except AttemptFailure Verdict → Outcome
  | .error failure => .failed failure
  | .ok value =>
      if value.isTruthy then .passed value
      else
        .failed ⟨.returnedFalse, toolchain.entryExport ++ " returned " ++ toolchain.falseLiteral⟩

def attempt (kit : EngineKit World Engine Value) (compiler : Compiler World) (toolchain : Toolchain)
    (test : TestCase) : Act World Outcome := do
  return outcome toolchain (← execute kit compiler toolchain.entryExport test)

end Trial

end Bootstrap
