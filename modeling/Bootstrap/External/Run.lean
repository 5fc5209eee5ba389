import Bootstrap.Disk.Files
import Bootstrap.External.Engine
import Bootstrap.External.Host
import Bootstrap.Verification

/-!
A run over a disk with external tools, as the settings name them.
-/

namespace Bootstrap

namespace External

def runnerOf (settings : Settings) (family : Nat) (command : Command) : Runner where
  command := command
  workDir := settings.locations.workDir
  falseLiteral := settings.toolchain.falseLiteral
  trueLiteral := settings.toolchain.trueLiteral
  family := family

def appendLine (handle : Nat) (line : String) (world : World) : World :=
  world.withDisk (world.disk.append handle (Utf8.encode (line ++ "\n")))

/-- The host compiler; without a command for it, only a run from the snapshot can go on. -/
def hostOf? (tools : Tools) (settings : Settings) : Option (Compiler World) :=
  match Command.ofWords? settings.toolchain.host with
  | some command => some (host tools command settings.locations.scratchArtifact)
  | none => if settings.selection.useSnapshot then some Compiler.unconfigured else none

def environment (tools : Tools) (runner : Runner) (compiler : Compiler World) :
    Environment World Engine (Option Bytes) where
  files := Disk.access World.disk
  host := compiler
  engines := engines tools runner
  append := appendLine

def run (tools : Tools) (family : Nat) (settings : Settings) (filter : Option String) :
    Run World (Result RunError Summary) :=
  match Command.ofWords? settings.toolchain.runner with
  | none => return .error (.settings "toolchain.runner is empty")
  | some command =>
      match hostOf? tools settings with
      | none => return .error (.settings "toolchain.host is empty")
      | some compiler =>
          Verification.run (environment tools (runnerOf settings family command) compiler) settings
            filter

def logTo (path : Path) (session : Session World) : Except FileError (Session World) :=
  match session.world.disk.openForAppending path with
  | .error error => .error (.io error.message)
  | .ok (handle?, disk) =>
      let logger :=
        match handle? with
        | some handle => session.logger.addSink (.file handle)
        | none => session.logger
      .ok { session with world := session.world.withDisk disk, logger := logger }

end External

end Bootstrap
