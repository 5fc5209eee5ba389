import Bootstrap.StandIns.Shell.State

/-!
Redirections with their names expanded, and opening them.
-/

namespace Bootstrap

namespace Shell

/-- A redirection whose words are known; a descriptor without another one to stand for is closed. -/
inductive Target where
  | file (descriptor : Nat) (opening : Opening) (name : Octets)
  | duplicate (descriptor : Nat) (other : Option Nat)
  | document (descriptor : Nat) (number : Nat)
  deriving DecidableEq, Repr

namespace Target

def redirected : Target → Nat
  | .file descriptor _ _ => descriptor
  | .duplicate descriptor _ => descriptor
  | .document descriptor _ => descriptor

def descriptor? (word : Octets) : Option (Option Nat) :=
  match word with
  | ['-'] => some none
  | [digit] => if digit.isDigit then some (some (digit.toNat - '0'.toNat)) else none
  | _ => none

def refusal (verb whenMissing : String) (name : Octets) (error : OsError) : Octets :=
  let reason := match error with
    | .noEntry => whenMissing
    | .notADirectory => whenMissing
    | other => other.reason
  ("cannot " ++ verb ++ " ").toList ++ name ++ (": " ++ reason).toList

def channelAt (disk : Disk) (opening : Opening) (path : Path) : Except OsError (Disk × Channel) := do
  let known := fun (number? : Option Nat) =>
    match number? with
    | some number => Channel.file number 0 opening
    | none => .null
  match opening with
  | .input =>
      match (← disk.look path).2 with
      | .directory => return (disk, .directory)
      | .file number _ => return (disk, known (some number))
      | .device => return (disk, .null)
  | .both =>
      let (number?, disk) ← disk.openForAppending path
      return (disk, known number?)
  | .append =>
      let (number?, disk) ← disk.openForAppending path
      return (disk, known number?)
  | _ =>
      let disk ← disk.write path []
      return (disk, known ((disk.numberOf path).toOption.bind id))

def reopened (bench : Bench) (descriptor source : Nat) (opening : Opening) :
    Except OsError Bench := do
  match bench.channel? source with
  | some (_, .file number _ _) =>
      let disk := if opening = .output ∨ opening = .overwrite then bench.disk.refill number []
        else bench.disk
      return { bench with disk := disk }.attach descriptor (.file number 0 opening)
  | some (index, _) =>
      return { bench with descriptors := bench.descriptors.insert descriptor index }
  | none => throw .noEntry

def openAt (bench : Bench) (descriptor : Nat) (opening : Opening) (name : Octets) :
    Except OsError Bench := do
  match Bench.streamOf? (Octets.toText name) with
  | some source => reopened bench descriptor source opening
  | none =>
      let (disk, channel) ← channelAt bench.disk opening (Tool.path name)
      return { bench with disk := disk }.attach descriptor channel

def openFile (descriptor : Nat) (opening : Opening) (name : Octets) : Exec Unit := do
  let state ← get
  let result := if opening = .output ∧ state.has 'C' ∧ state.bench.disk.isFile (Tool.path name) then
      .error .alreadyExists
    else openAt state.bench descriptor opening name
  match result with
  | .ok bench => set { state with bench := bench }
  | .error error =>
      Exec.raise <| if opening = .input then refusal "open" "No such file" name error
        else refusal "create" "Directory nonexistent" name error

def connect (descriptor other : Nat) : Exec Unit := do
  let state ← get
  match state.bench.descriptors.get? other with
  | some index =>
      set { state with
        bench := { state.bench with
          descriptors := state.bench.descriptors.insert descriptor index } }
  | none => Exec.raise (State.decimal other ++ ": Bad file descriptor".toList)

section Opening

variable (document : Nat → Exec Octets)

def close (descriptor : Nat) : Exec Unit :=
  modify fun state =>
    { state with
      bench := { state.bench with descriptors := state.bench.descriptors.erase descriptor } }

def openTarget (setsAside : Bool) : Target → Exec Unit
  | .file descriptor opening name => openFile descriptor opening name
  | .duplicate descriptor (some other) => do
      if descriptor ≠ other then
        let isOpen := ((← get).bench.descriptors.get? other).isSome
        if setsAside ∧ !isOpen then close descriptor
        connect descriptor other
  | .duplicate descriptor none => close descriptor
  | .document descriptor number => do
      let text ← document number
      modify fun state =>
        { state with
          bench := state.bench.attach descriptor (.source (Octets.toBytes text)) }

/-- Opens targets in their order. Where they end with the command, a descriptor is set aside when it
is redirected first, so that a failure that this keeps from being told stays untold. -/
def openAll (areKept : Bool) : (seen : List Nat) → List Target → Exec Unit
  | _, [] => return ()
  | seen, target :: rest => do
      openTarget document (!areKept && !seen.contains target.redirected) target
      openAll areKept (target.redirected :: seen) rest

def areOpened (targets : List Target) : Exec Bool := do
  match ← Exec.attempt (openAll document false [] targets) with
  | .ok _ => return true
  | .error .failed => return false
  | .error flow => throw flow

end Opening

end Target

namespace Exec

/-- Lets descriptors that have been redirected stand for what they stood for before. -/
def withRestored (before : Table Nat Nat) (targets : List Target) (state : State) : State :=
  let descriptors := targets.foldl
    (fun table target =>
      match before.get? target.redirected with
      | some index => table.insert target.redirected index
      | none => table.erase target.redirected)
    state.bench.descriptors
  { state with bench := { state.bench with descriptors := descriptors } }

def redirecting (targets : List Target) (step : Exec α) : Exec α := do
  let before := (← get).bench.descriptors
  after step (withRestored before targets)

end Exec

end Shell

end Bootstrap
