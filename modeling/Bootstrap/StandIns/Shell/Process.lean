import Bootstrap.StandIns.Shell.Declaration

/-!
Signals, jobs and the working directory: the commands that send, await and change them.
-/

namespace Bootstrap

namespace Shell

namespace Process

def announce (signal : Nat) : Exec Unit :=
  match Signal.description? signal with
  | some text => Exec.tool (Tool.writeText 2 (text ++ "\n"))
  | none => return ()

def isDeadly (traps : Table Nat Octets) (signal : Nat) : Bool :=
  signal = 9 || ((traps.get? signal).isNone && !Signal.isHarmless signal)

def arrivedHere (state : State) : List Nat :=
  if state.isSubshell then []
  else (state.arrived.filter fun entry => entry.1 = state.number).map Prod.snd

/-- Ends a shell that a signal has come for which nothing is to be done about. -/
def yieldToSignals : Exec Unit := do
  let state ← get
  match (arrivedHere state).find? (isDeadly state.traps) with
  | some signal => throw (.killed signal)
  | none => return ()

def usage : String :=
  "Usage: kill [-s sigspec | -signum | -sigspec] [pid | job]... or\nkill -l [exitstatus]"

def signalOf? (word : Octets) : Option Nat :=
  (Signal.number? word).filter fun number => number ≠ 0 || (Numeral.natural? word).isSome

def jobNamed (word : Octets) : Exec (Nat × Job) := do
  let jobs := (← get).jobs
  let found := match Numeral.natural? (word.drop 1) with
    | some place => if place = 0 then none else jobs[place - 1]?
    | none => if [['%'], ['%', '%'], ['%', '+']].contains word then jobs.getLast? else none
  match found with
  | some job => return job
  | none => Exec.raise ("No such job: ".toList ++ word)

def setJob (number : Nat) (job : Job) : Exec Unit :=
  modify fun state => { state with jobs := state.jobs.insert number job }

def missing : Exec Nat := do
  Exec.warn "No such process\n".toList
  return 1

def sendToJob (signal number : Nat) (job : Job) : Exec Nat := do
  if job.isAwaited then missing
  else
    if !Signal.isHarmless signal ∧ job.status = 0 then
      setJob number ⟨128 + signal, some signal, false⟩
      modify fun state =>
        { state with behind := state.behind.filter fun script => script.1 ≠ number }
    return 0

def sendTo (signal number : Nat) : Exec Nat := do
  let state ← get
  if number = state.number ∨ number = state.parent then
    if signal ≠ 0 then
      set { state with arrived := state.arrived ++ [(number, signal)] }
      yieldToSignals
    return 0
  else
    match state.jobs.get? number with
    | some job => sendToJob signal number job
    | none => missing

def send (signal : Nat) : List Octets → Exec Nat
  | [] => return 0
  | word :: rest => do
      let status ← match word with
        | '%' :: _ => do
            let (number, job) ← jobNamed word
            sendToJob signal number job
        | '-' :: group => do
            let _ ← Exec.number group
            missing
        | _ => do sendTo signal (← Exec.number word)
      return max status (← send signal rest)

def listSignals (words : List Octets) : Exec Nat := do
  match words with
  | [] => Exec.showLines (['0'] :: Signal.names.map String.toList)
  | word :: _ =>
      let status ← Exec.number word
      let number := if 128 < status then status - 128 else status
      if 0 < number ∧ number ≤ Signal.names.length then
        Exec.showLine (Signal.nameOf number).toList
      else Exec.raise ("invalid signal number or exit status: ".toList ++ word)
  return 0

def kill (words : List Octets) : Exec Nat := do
  let sendAll := fun (signal : Nat) (targets : List Octets) =>
    if targets.isEmpty then Exec.raiseText usage else send signal targets
  match words with
  | [] => Exec.raiseText usage
  | ('-' :: name) :: rest =>
      match signalOf? name with
      | some signal => sendAll signal rest
      | none =>
          let (letters, targets) ← ShortOption.ofWords ['l'] ['s'] words
          let named := letters.filter fun given => given.letter = 's'
          let lists := ShortOption.has 'l' letters
          match named.find? fun given => (signalOf? given.value).isNone with
          | some given => Exec.raise ("invalid signal number or name: ".toList ++ given.value)
          | none =>
              match named.getLast?.bind fun given => signalOf? given.value with
              | some signal => if lists then Exec.raiseText usage else sendAll signal targets
              | none => if lists then listSignals targets else sendAll 15 targets
  | targets => sendAll 15 targets

def await (number : Nat) (job : Job) : Exec Nat := do
  match job.signal with
  | some signal => announce signal
  | none => pure ()
  setJob number { job with signal := none, isAwaited := true }
  return job.status

def awaitAll : List Octets → (status : Nat) → Exec Nat
  | [], status => return status
  | word :: rest, status => do
      let next ← match word with
        | '%' :: _ => do
            let (number, job) ← jobNamed word
            await number job
        | _ => do
            let number ← Exec.number word
            match (← get).jobs.get? number with
            | some job => await number job
            | none => pure status
      awaitAll rest next

/-- The status of the last of some jobs; without any, all jobs are waited for. -/
def wait (words : List Octets) : Exec Nat := do
  match ← ShortOption.none' words with
  | [] =>
      modify fun state =>
        { state with
          jobs := state.jobs.map fun entry =>
            (entry.1, { entry.2 with signal := none, isAwaited := true }) }
      return 0
  | names => awaitAll names 127

def showTraps : Exec Unit := do
  let traps := (← get).traps.mergeSort fun first second => decide (first.1 ≤ second.1)
  Exec.showLines (traps.map fun (signal, action) =>
    "trap -- ".toList ++ Declaration.quoted action ++ ' ' :: (Signal.nameOf signal).toList)

def setTraps (action : Option Octets) : List Octets → Exec Nat
  | [] => return 0
  | word :: rest => do
      match Signal.number? word with
      | none =>
          Exec.tool (Tool.writeText 2 ("trap: " ++ Octets.toText word ++ ": bad trap\n"))
          return 1
      | some signal =>
          modify fun state =>
            { state with
              traps := match action with
                | some text => state.traps.insert signal text
                | none => state.traps.erase signal }
          setTraps action rest

def trap (words : List Octets) : Exec Nat := do
  match ← ShortOption.none' words with
  | [] =>
      showTraps
      return 0
  | [signal] => setTraps none [signal]
  | action :: signals =>
      if ((Numeral.natural? action).bind fun _ => Signal.number? action).isSome then
        setTraps none (action :: signals)
      else setTraps (if action = ['-'] then none else some action) signals

def symbols (mask shift : Nat) : String :=
  let bits := 7 - mask / shift % 8
  let part := fun (bit : Nat) (sign : String) => if bits / bit % 2 = 1 then sign else ""
  part 4 "r" ++ part 2 "w" ++ part 1 "x"

def octalMask : (value : Nat) → Octets → Option Nat
  | value, [] => some value
  | value, digit :: rest =>
      if '0' ≤ digit ∧ digit ≤ '7' then octalMask (value * 8 + (digit.toNat - '0'.toNat)) rest
      else none

def mask (words : List Octets) : Exec Nat := do
  let (letters, given) ← ShortOption.ofWords ['S'] [] words
  let current := (← get).mask
  match given with
  | [] =>
      Exec.showLine <|
        if letters.isEmpty then Numeral.padStart 4 (Nat.toDigits 8 current)
        else ("u=" ++ symbols current 64 ++ ",g=" ++ symbols current 8 ++ ",o=" ++
          symbols current 1).toList
  | word :: _ =>
      if word.head?.any Char.isDigit then
        match octalMask 0 word with
        | some value => modify fun state => { state with mask := value % 512 }
        | none => Exec.raise ("Illegal number: ".toList ++ word)
      else Exec.raise ("Illegal mode: ".toList ++ word)
  return 0

def times : Exec Nat := do
  let line := "0m0.000000s 0m0.000000s".toList
  Exec.showLines [line, line]
  return 0

/-- Limits are taken as they come, and none is ever shown. -/
def limit (words : List Octets) : Exec Nat := do
  let (_, given) ← ShortOption.ofWords ("HSatfdscmlpnvwr".toList) [] words
  match given with
  | [] => Exec.showLine "unlimited".toList
  | [word] =>
      if word ≠ "unlimited".toList ∧ !word.all Char.isDigit then Exec.raiseText "bad number"
  | _ => Exec.raiseText "too many arguments"
  return 0

def noJob : Exec Nat :=
  Exec.raiseText "No current job"

def here (state : State) : Octets :=
  Octets.ofText ("/" ++ "/".intercalate state.bench.disk.here)

def showHere (words : List Octets) : Exec Nat := do
  let _ ← ShortOption.ofWords ['L', 'P'] [] words
  Exec.showLine (here (← get))
  return 0

def places (state : State) (target : Octets) : List (Octets × Bool) :=
  let first := target.takeWhile (· ≠ '/')
  if target.head? = some '/' ∨ first = ['.'] ∨ first = ['.', '.'] then [(target, false)]
  else
    match state.valueOf? "CDPATH".toList with
    | none => [(target, false)]
    | some paths =>
        (paths.splitOn ':').map fun path =>
          if path.isEmpty then (target, false) else (path ++ '/' :: target, true)

def enter (location : Location) : Exec Unit := do
  let before := here (← get)
  modify fun state =>
    { state with
      bench := { state.bench with disk := { state.bench.disk with here := location } }
      tracked := state.tracked.map fun entry => (entry.1, true) }
  Exec.assign "OLDPWD".toList before
  Exec.assign "PWD".toList (here (← get))

def changeDirectory (words : List Octets) : Exec Nat := do
  let (_, given) ← ShortOption.ofWords ['L', 'P'] [] words
  let state ← get
  let back := given.head?.any (· = ['-'])
  let target := match given with
    | [] => (state.valueOf? "HOME".toList).getD []
    | word :: _ => if back then (state.valueOf? "OLDPWD".toList).getD [] else word
  let wanted := if target.isEmpty then ['.'] else target
  let found := (places state wanted ++ [(wanted, false)]).findSome? fun (place, tells) =>
    match state.bench.disk.look (Tool.path place) with
    | .ok (location, .directory) => some (location, tells)
    | _ => none
  match found with
  | some (location, tells) =>
      enter location
      if back || tells then Exec.showLine (here (← get))
      return 0
  | none => Exec.raise ("can't cd to ".toList ++ target)

end Process

end Shell

end Bootstrap
