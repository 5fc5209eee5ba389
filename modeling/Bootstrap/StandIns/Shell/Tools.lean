import Bootstrap.Disk.Launch
import Bootstrap.StandIns.Shell.Interpreter

/-!
A stand-in for the shell and the plain tools of a system, which run the commands of a harness. What is
known of a harness holds whatever tools it is given, and no law rests on these.
-/

namespace Bootstrap

namespace Shell

def stepLimit : Nat :=
  60000

inductive Found where
  | shell
  | tool (run : List Octets → Tool Nat)

/-- The program that a word names: a tool, or what stands at a path, which never may be run. -/
def program (disk : Disk) (word : String) : Except OsError Found :=
  let named := if word.toList.contains '/' then programName? (Octets.ofText word) else some word
  match named.bind tool? with
  | some run => .ok (.tool run)
  | none =>
      if named.any isShellName then .ok .shell
      else if word.toList.contains '/' then do
        let _ ← disk.look ⟨word⟩
        .error .permissionDenied
      else if word = "." ∨ word = ".." then .error .permissionDenied
      else .error .noEntry

def startBench (disk : Disk) (input : Option Nat) : Bench :=
  let stdin : Channel :=
    match input with
    | some number => .file number 0 .input
    | none => .null
  ⟨disk, [stdin, .sink [], .sink []], [(0, 0), (1, 1), (2, 2)], false⟩

def blankState (bench : Bench) : State where
  bench := bench
  bindings := []
  functions := []
  documents := []
  name := []
  arguments := []
  status := 0
  captured := 0
  line := 0
  reached := 1
  place := none
  options := []
  loops := 0
  depth := 0
  scope := none
  traps := []
  isSubshell := false
  beforeTrap := none
  arrived := []
  number := 0
  parent := 0
  last := none
  jobs := []
  behind := []
  optionPlace := ⟨1, none⟩
  aliases := []
  tracked := []
  mask := 18

def firstNumber : Nat := 1000

def callerNumber : Nat := 999

/-- The tool is gone, and with it the directory that it worked in. -/
def finish (before : Disk) (status : ExitStatus) (bench : Bench) : Finish :=
  ⟨status, Interpreter.sinkAt bench 1, Interpreter.sinkAt bench 2,
    { bench.disk with here := before.here }⟩

def runShell (disk : Disk) (input : Option Nat) (name : Octets) (arguments : List Octets) : Finish :=
  let start := Interpreter.started (blankState (startBench disk input)) firstNumber callerNumber name
  let (answer, state) := (Interpreter.shell stepLimit arguments).run start
  match answer with
  | .error (.killed signal) => finish disk (.signal signal) state.bench
  | _ => finish disk (.code (state.status % 256)) state.bench

def runTool (disk : Disk) (input : Option Nat) (run : List Octets → Tool Nat)
    (arguments : List Octets) : Finish :=
  let (status, bench) := (run arguments).run (startBench disk input)
  finish disk (.code status) bench

def tools : Tools := fun words input disk =>
  if words.any fun word => word.toList.contains '\x00' then .refused .nulArgument
  else
    match words with
    | [] => .refused .noEntry
    | word :: rest =>
        let arguments := rest.map Octets.ofText
        match program disk word with
        | .error error => .refused error
        | .ok .shell => .finished (runShell disk input (Octets.ofText word) arguments)
        | .ok (.tool run) => .finished (runTool disk input run arguments)

end Shell

end Bootstrap
