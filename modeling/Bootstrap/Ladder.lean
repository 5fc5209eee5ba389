import Bootstrap.Session

/-!
Building generations on demand: the first from a snapshot or by the host, each later one by the
one before it over the same compiler source, and each at most once.
-/

namespace Bootstrap

namespace Ladder

variable {World Engine Value : Type}

/-- Answers from the cell of a generation, or constructs it and keeps what came out. -/
def memo (stage : Stage) (construct : Run World (Except StageError Artifact)) :
    Run World (Except StageError Artifact) := do
  match (← get).cells.built stage with
  | some result => return result
  | none =>
      let result ← construct
      modify fun session => { session with cells := session.cells.fill stage result }
      return result

/-- The compiler source, read for whoever asks first; a failure to read it names that generation. -/
def compilerSource (env : Environment World Engine Value) (settings : Settings) (requester : Stage) :
    Run World (Except StageError SourceUnit) := do
  match (← get).cells.source with
  | some result => return result
  | none =>
      let path := settings.locations.compilerSource
      let result : Except StageError SourceUnit :=
        match ← Run.perform env (env.files.read path) with
        | .ok bytes => .ok ⟨"compiler", path, bytes⟩
        | .error error => .error (.source requester path error.message)
      modify fun session => { session with cells := session.cells.fillSource result }
      return result

def accept (stage : Stage) (origin : Origin) :
    Except CompileError Bytes → Except StageError Artifact
  | .error error => .error (.compile stage error)
  | .ok bytes =>
      if bytes.isEmpty then .error (.compile stage ⟨"empty artifact"⟩)
      else .ok ⟨stage, origin, bytes⟩

def compileSource (env : Environment World Engine Value) (settings : Settings) (stage : Stage)
    (origin : Origin) (compiler : Compiler World) : Run World (Except StageError Artifact) := do
  match ← compilerSource env settings stage with
  | .error error => return .error error
  | .ok source => return accept stage origin (← Run.perform env (compiler source))

def acceptSnapshot (path : Path) : Except FileError Bytes → Except StageError Artifact
  | .error error => .error (.snapshot path error.message)
  | .ok bytes =>
      if bytes.isEmpty then .error (.snapshot path "empty file")
      else .ok ⟨.stage0, .snapshot, bytes⟩

def loadSnapshot (env : Environment World Engine Value) (settings : Settings) :
    Run World (Except StageError Artifact) := do
  let path := settings.locations.snapshot
  Run.say env .debug Log.Target.stage ("loading snapshot " ++ path.text)
  return acceptSnapshot path (← Run.perform env (env.files.read path))

def constructFirst (env : Environment World Engine Value) (settings : Settings) :
    Run World (Except StageError Artifact) :=
  if settings.selection.useSnapshot then loadSnapshot env settings
  else compileSource env settings .stage0 .host env.host

def compilerOf (env : Environment World Engine Value) (settings : Settings) (artifact : Artifact) :
    Compiler World :=
  Compiler.ofModule env.engines artifact.bytes settings.toolchain.compileExport

def constructNext (env : Environment World Engine Value) (settings : Settings) (below stage : Stage)
    (previous : Run World (Except StageError Artifact)) :
    Run World (Except StageError Artifact) := do
  match ← previous with
  | .error error => return .error (error.blocking stage)
  | .ok artifact =>
      compileSource env settings stage (.compiledBy below) (compilerOf env settings artifact)

/-- A blocked generation is a warning; the failure that blocks it has been logged as the error. -/
def announce (env : Environment World Engine Value) :
    Except StageError Artifact → Run World Unit
  | .ok artifact => Run.say env .info Log.Target.stage artifact.line
  | .error error =>
      Run.say env (if error.isDependency then .warn else .error) Log.Target.stage error.message

def construct (env : Environment World Engine Value) (stage : Stage)
    (step : Run World (Except StageError Artifact)) : Run World (Except StageError Artifact) :=
  Run.within "build_stage" do
    Run.say env .info Log.Target.stage ("building " ++ stage.name)
    let result ← step
    announce env result
    return result

def build (env : Environment World Engine Value) (settings : Settings) :
    Stage → Run World (Except StageError Artifact) :=
  Stage.climb (memo .stage0 (construct env .stage0 (constructFirst env settings)))
    fun below stage previous =>
      memo stage (construct env stage (constructNext env settings below stage previous))

def compiler (env : Environment World Engine Value) (settings : Settings) (stage : Stage) :
    Run World (Except StageError (Compiler World)) := do
  match ← build env settings stage with
  | .error error => return .error error
  | .ok artifact => return .ok (compilerOf env settings artifact)

end Ladder

end Bootstrap
