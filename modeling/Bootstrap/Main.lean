import Bootstrap.CommandLine.Program
import Bootstrap.StandIns.Arguments
import Bootstrap.StandIns.Shell.Tools

/-!
The command itself: it takes the working directory up as a disk, runs over it with the tools of the
shell, and leaves the directory as the run has left the disk.
-/

namespace Bootstrap

namespace Main

def depthLimit : Nat :=
  64

def gather : (depth : Nat) → (start : String) → List IO.FS.DirEntry →
    IO (List (Path × Option Bytes))
  | 0, _, _ => return []
  | _ + 1, _, [] => return []
  | depth + 1, start, entry :: entries => do
      let name := start ++ entry.fileName
      let here ←
        if ← entry.path.isDir then do
          let inside ← entry.path.readDir
          pure ((⟨name⟩, none) :: (← gather depth (name ++ "/") inside.toList))
        else do
          let content ← IO.FS.readBinFile entry.path
          pure [(⟨name⟩, some content.toList)]
      return here ++ (← gather (depth + 1) start entries)

def load : IO Disk := do
  let entries ← (← IO.currentDir).readDir
  return Disk.ofList (← gather depthLimit "" entries.toList)

def update (before : List (String × Option Bytes)) : List (String × Option Bytes) → IO Unit
  | [] => return ()
  | entry :: entries => do
      if !before.contains entry then
        match entry.2 with
        | none => IO.FS.createDirAll entry.1
        | some content => IO.FS.writeBinFile entry.1 content.toByteArray
      update before entries

def clear (after : List (String × Option Bytes)) : List (String × Option Bytes) → IO Unit
  | [] => return ()
  | entry :: entries => do
      if !(after.any fun other => other.1 = entry.1) then
        match entry.2 with
        | none => IO.FS.removeDir entry.1
        | some _ => IO.FS.removeFile entry.1
      clear after entries

def store (before after : Disk) : IO Unit := do
  clear after.contents before.contents.reverse
  update before.contents after.contents

end Main

end Bootstrap

/-- Runs the command in the working directory. -/
def main (words : List String) : IO UInt32 := do
  let disk ← Bootstrap.Main.load
  let moment : Bootstrap.CommandLine.Moment := ⟨0, ← IO.monoMsNow⟩
  let ending := Bootstrap.CommandLine.execute Bootstrap.Arguments.reader Bootstrap.Shell.tools moment
    words disk
  Bootstrap.Main.store disk ending.disk
  IO.print ending.stdout
  IO.eprint ending.stderr
  return ending.code.toUInt32
