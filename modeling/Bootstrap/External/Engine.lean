import Bootstrap.Engine
import Bootstrap.External.World
import Bootstrap.Log.Target

/-!
Engines that run an external command for each call. An engine owns three files of the work
directory: its module, its input and the result that the command writes.
-/

namespace Bootstrap

namespace External

structure Runner where
  command : Command
  workDir : Path
  falseLiteral : String
  trueLiteral : String
  family : Nat
  deriving DecidableEq, Repr

structure Engine where
  modulePath : Path
  inputPath : Path
  resultPath : Path
  input : Bytes
  output : Bytes
  loaded : Bool
  deriving DecidableEq, Repr

namespace Engine

/-- No two engines of a family share a number. -/
def stem (family number : Nat) : String :=
  "engine-" ++ toString family ++ "-" ++ toString number

def numbered (runner : Runner) (number : Nat) : Engine :=
  let file := fun (ending : String) =>
    runner.workDir.join ⟨stem runner.family number ++ ending⟩
  ⟨file ".mod", file ".in", file ".result", [], [], false⟩

def bindInput (input : Bytes) (engine : Engine) : Engine :=
  { engine with input := input }

def clearOutput (engine : Engine) : Engine :=
  { engine with output := [] }

end Engine

def instantiate (runner : Runner) : Act World (Except Fault Engine) := do
  match ← World.perform fun disk => disk.makeDirs runner.workDir with
  | .error error => return .error (.instantiate (refusal "cannot create" runner.workDir error))
  | .ok () =>
      let number ← Act.change fun world =>
        (world.nextEngine, { world with nextEngine := world.nextEngine + 1 })
      return .ok (Engine.numbered runner number)

def load (module : Bytes) (engine : Engine) : Act World (Except Fault Unit × Engine) := do
  if module.isEmpty then return (.error (.load "empty module"), engine)
  else
    match ← World.attempt fun disk => disk.write engine.modulePath module with
    | .error error =>
        return (.error (.load (refusal "cannot write" engine.modulePath error)), engine)
    | .ok () => return (.ok (), { engine with loaded := true })

/-- Writes the input and takes away an earlier result; answers with the file that is to be read. -/
def prepare (engine : Engine) : Act World (Except Fault (Option Nat)) := do
  match ← World.attempt fun disk => disk.write engine.inputPath engine.input with
  | .error error => return .error (.trap (refusal "cannot write" engine.inputPath error))
  | .ok () =>
      match ← World.attempt fun disk => disk.remove engine.resultPath with
      | .ok () => openInput
      | .error .noEntry => openInput
      | .error error => return .error (.trap (refusal "cannot remove" engine.resultPath error))
where
  openInput : Act World (Except Fault (Option Nat)) := do
    match ← World.look fun disk => disk.numberOf engine.inputPath with
    | .error error => return .error (.trap (refusal "cannot open" engine.inputPath error))
    | .ok input => return .ok input

def runnerValues (exportName : String) (engine : Engine) : List (String × String) :=
  [("module", engine.modulePath.text), ("export", exportName), ("result", engine.resultPath.text)]

/-- What is reported of a command that has failed: its own complaint, if it made one. -/
def failureText (exportName : String) (finish : Finish) : String :=
  if (complaint finish).isEmpty then exportName ++ " exited with " ++ finish.status.text
  else complaint finish

def collectResult (runner : Runner) (exportName : String) (engine : Engine) :
    Launch → Act World (Except Fault (Option Bytes) × Engine)
  | .refused error => return (.error (.trap (spawnRefusal runner.command error)), engine)
  | .finished finish => do
      let engine := { engine with output := engine.output ++ finish.stdout }
      if finish.status.isSuccess then
        let result ← World.look fun disk => (disk.read engine.resultPath).toOption
        return (.ok result, engine)
      else return (.error (.trap (failureText exportName finish)), engine)

def call (tools : Tools) (runner : Runner) (exportName : String) (engine : Engine) :
    Act World (Except Fault (Option Bytes) × Engine) := do
  match ← prepare engine with
  | .error fault => return (.error fault, engine)
  | .ok input =>
      let values := runnerValues exportName engine
      Act.note .debug Log.Target.processEngine ("runner: " ++ runner.command.line values)
      collectResult runner exportName engine
        (← World.launch tools (runner.command.filled values) input)

def invoke (tools : Tools) (runner : Runner) (exportName : String) (engine : Engine) :
    Act World (Except Fault (Option Bytes) × Engine) :=
  if engine.loaded then call tools runner exportName engine
  else return (.error (.trap "no module loaded"), engine)

/-- A result is text, and the blanks around it do not count. -/
def marshal (runner : Runner) : Option Bytes → Except Fault Verdict
  | none => .error (.marshal "no result written")
  | some bytes =>
      match Utf8.decode bytes with
      | .error fault => .error (.marshal ("result is not UTF-8: " ++ fault.message))
      | .ok text =>
          .ok (Verdict.ofPrinted runner.falseLiteral runner.trueLiteral (Text.trim text))

/-- Removes an engine's files, whether or not they are there. -/
def release (engine : Engine) : Act World Unit := do
  let _ ← World.attempt fun disk => disk.remove engine.modulePath
  let _ ← World.attempt fun disk => disk.remove engine.inputPath
  let _ ← World.attempt fun disk => disk.remove engine.resultPath
  return ()

def engines (tools : Tools) (runner : Runner) : EngineKit World Engine (Option Bytes) where
  instantiate := instantiate runner
  bindInput := Engine.bindInput
  clearOutput := Engine.clearOutput
  output := Engine.output
  load := load
  invoke := invoke tools runner
  marshal := fun _ value => marshal runner value
  release := release

end External

end Bootstrap
