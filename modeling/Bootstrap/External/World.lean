import Bootstrap.Act
import Bootstrap.Command
import Bootstrap.Disk.Launch

/-!
The world of external tools: a disk, and the number of the next engine.
-/

namespace Bootstrap

namespace External

structure World where
  disk : Disk
  nextEngine : Nat
  deriving DecidableEq, Repr

namespace World

def start (disk : Disk) : World :=
  ⟨disk, 0⟩

def withDisk (world : World) (disk : Disk) : World :=
  { world with disk := disk }

/-- Performs a change of the disk, or answers with the refusal and changes nothing. -/
def attempt (step : Disk → Except OsError Disk) : Act World (Except OsError Unit) :=
  Act.change fun world =>
    match step world.disk with
    | .ok disk => (.ok (), world.withDisk disk)
    | .error error => (.error error, world)

/-- Performs a change of the disk that a refusal can leave half done. -/
def perform (step : Disk → Except OsError Unit × Disk) : Act World (Except OsError Unit) :=
  Act.change fun world => ((step world.disk).1, world.withDisk (step world.disk).2)

def look {α : Type} (answer : Disk → α) : Act World α :=
  Act.query fun world => answer world.disk

/-- Runs a command to its end. A command that is refused has changed nothing. -/
def launch (tools : Tools) (words : List String) (input : Option Nat) : Act World Launch :=
  Act.change fun world =>
    match tools words input world.disk with
    | .refused error => (.refused error, world)
    | .finished finish => (.finished finish, world.withDisk finish.disk)

end World

def refusal (deed : String) (path : Path) (error : OsError) : String :=
  deed ++ " '" ++ path.text ++ "': " ++ error.message

def spawnRefusal (command : Command) (error : OsError) : String :=
  "cannot spawn '" ++ command.program ++ "': " ++ error.message

def complaint (finish : Finish) : String :=
  Text.trim (Utf8.decodeLossy finish.stderr)

end External

end Bootstrap
