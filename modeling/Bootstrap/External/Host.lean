import Bootstrap.Compiler
import Bootstrap.External.World

/-!
The host toolchain: an external command that is to leave its artifact in a scratch file.
-/

namespace Bootstrap

namespace External

/-- Removes what an earlier compilation has left; nothing there is as good as removed. -/
def removeStale (scratch : Path) : Act World (Except CompileError Unit) := do
  match ← World.attempt fun disk => disk.remove scratch with
  | .ok () =>
      Act.note .trace Log.Target.compiler ("removed stale " ++ scratch.text)
      return .ok ()
  | .error .noEntry => return .ok ()
  | .error error => return .error ⟨refusal "cannot remove stale artifact" scratch error⟩

def collectArtifact (command : Command) (scratch : Path) :
    Launch → Act World (Except CompileError Bytes)
  | .refused error => return .error ⟨spawnRefusal command error⟩
  | .finished finish => do
      if finish.status.isSuccess then
        match ← World.look fun disk => disk.read scratch with
        | .ok artifact => return .ok artifact
        | .error error =>
            return .error ⟨refusal (command.program ++ " produced no artifact") scratch error⟩
      else
        return .error ⟨command.program ++ " exited with " ++ finish.status.text ++ ": " ++
          complaint finish⟩

def hostValues (scratch : Path) (unit : SourceUnit) : List (String × String) :=
  [("source", unit.path.text), ("output", scratch.text)]

/-- Compiles by the command, which starts without an artifact and without input. -/
def host (tools : Tools) (command : Command) (scratch : Path) : Compiler World := fun unit => do
  match ← removeStale scratch with
  | .error error => return .error error
  | .ok () =>
      let values := hostValues scratch unit
      Act.note .debug Log.Target.compiler ("host: " ++ command.line values)
      collectArtifact command scratch (← World.launch tools (command.filled values) none)

end External

end Bootstrap
