import Bootstrap.StandIns.Shell.Bench
import Bootstrap.StandIns.Shell.Field
import Bootstrap.StandIns.Shell.Reader
import Bootstrap.StandIns.Shell.Signal

/-!
The state of a running shell, and the ways in which control leaves a command early.
-/

namespace Bootstrap

namespace Shell

/-- How control leaves a command before its end. A failure ends the shell unless a command that is
not special has caused it. -/
inductive Flow where
  | leave (loops : Nat)
  | again (loops : Nat)
  | returned
  | exited
  | failed
  | killed (signal : Nat)
  deriving DecidableEq, Repr

/-- A variable; one that has been declared may have no value yet. -/
structure Binding where
  value : Option Octets
  exported : Bool
  readOnly : Bool
  deriving DecidableEq, Repr

structure OptionPlace where
  next : Nat
  offset : Option Nat
  deriving DecidableEq, Repr

structure Job where
  status : Nat
  signal : Option Nat
  isAwaited : Bool
  deriving DecidableEq, Repr

/-- What a function's local names stood for outside, latest first. -/
structure Scope where
  saved : List (Octets × Option Binding)
  options : Option (List Char)

/-- A running shell. `captured` is the status of the last script whose output became part of a word;
`reached` is the line up to which the script has been read; `place` names the command that the
running commands come from; `traps` are actions for signals;
`beforeTrap` is the status from before the action that runs; `arrived` are signals, with the shells
they are meant for; `behind` are the scripts in the background that are yet to run, each with the shell
that has asked for it as it was then; `tracked` are the programs that have been looked up, and whether
the directory has changed since. -/
structure State where
  bench : Bench
  bindings : Table Octets Binding
  functions : Table Octets Command
  documents : Table Nat (List Piece)
  name : Octets
  arguments : List Octets
  status : Nat
  captured : Nat
  line : Nat
  reached : Nat
  place : Option Octets
  options : List Char
  loops : Nat
  depth : Nat
  scope : Option Scope
  traps : Table Nat Octets
  isSubshell : Bool
  beforeTrap : Option Nat
  arrived : List (Nat × Nat)
  number : Nat
  parent : Nat
  last : Option Nat
  jobs : Table Nat Job
  behind : List (Nat × Command × State)
  optionPlace : OptionPlace
  aliases : Table Octets Octets
  tracked : Table Octets Bool
  mask : Nat

abbrev Exec := ExceptT Flow (StateM State)

namespace State

def binding? (state : State) (name : Octets) : Option Binding :=
  state.bindings.get? name

def valueOf? (state : State) (name : Octets) : Option Octets :=
  (state.binding? name).bind Binding.value

def separators (state : State) : Octets :=
  (state.valueOf? "IFS".toList).getD Part.blanks

def joiner (state : State) : Octets :=
  state.separators.take 1

def decimal (value : Nat) : Octets :=
  Nat.toDigits 10 value

def has (state : State) (option : Char) : Bool :=
  state.options.contains option

def optionLetters : List Char :=
  ['p', 'u', 'b', 'a', 'C', 'E', 'V', 'v', 'x', 's', 'n', 'm', 'i', 'I', 'f', 'e']

def parameter? (state : State) (name : Octets) : Option Octets :=
  match name with
  | ['#'] => some (decimal state.arguments.length)
  | ['?'] => some (decimal state.status)
  | ['$'] => some (decimal state.number)
  | ['!'] => state.last.map decimal
  | ['-'] => some (optionLetters.filter state.has)
  | ['@'] => some (state.joiner.intercalate state.arguments)
  | ['*'] => some (state.joiner.intercalate state.arguments)
  | _ =>
      match Numeral.natural? name with
      | some 0 => some state.name
      | some (index + 1) => state.arguments[index]?
      | none => state.valueOf? name

def restore (state : State) (saved : Octets × Option Binding) : State :=
  match saved.2 with
  | some binding => { state with bindings := state.bindings.insert saved.1 binding }
  | none => { state with bindings := state.bindings.erase saved.1 }

end State

namespace Exec

def tool (step : Tool α) : Exec α :=
  fun state =>
    let (answer, bench) := step state.bench
    (.ok answer, { state with bench := bench })

def setStatus (status : Nat) : Exec Unit :=
  modify fun state => { state with status := status }

def warn (text : Octets) : Exec Unit := do
  let state ← get
  let places := state.name :: State.decimal state.line :: state.place.toList
  tool (Tool.write 2 ((places.flatMap fun place => place ++ [':', ' ']) ++ text ++ ['\n']))

def raise (text : Octets) : Exec α := do
  warn text
  setStatus 2
  throw .failed

def raiseText (text : String) : Exec α :=
  raise text.toList

def rebind (change : Table Octets Binding → Table Octets Binding) : Exec Unit :=
  modify fun state => { state with bindings := change state.bindings }

def showLine (line : Octets) : Exec Unit :=
  tool (Tool.write 1 (line ++ ['\n']))

def showLines : List Octets → Exec Unit
  | [] => return ()
  | line :: rest => do
      showLine line
      showLines rest

def number (word : Octets) : Exec Nat :=
  match (Numeral.natural? word).filter fun value => decide (value < 2147483648) with
  | some value => return value
  | none => raise ("Illegal number: ".toList ++ word)

def attempt (step : Exec α) : Exec (Except Flow α) :=
  fun state =>
    let (answer, after) := step.run state
    (.ok answer, after)

def resume (answer : Except Flow α) : Exec α :=
  fun state => (answer, state)

def after (step : Exec α) (mend : State → State) : Exec α := do
  let answer ← attempt step
  modify mend
  resume answer

def assign (name value : Octets) : Exec Unit := do
  let state ← get
  let before := (state.binding? name).getD ⟨none, false, false⟩
  if before.readOnly then raise (name ++ ": is read only".toList)
  else
    let binding := { before with value := some value, exported := before.exported || state.has 'a' }
    rebind fun bindings => bindings.insert name binding
    if name = "PATH".toList then modify fun state => { state with tracked := [] }
    if name = "OPTIND".toList then
      match Numeral.natural? value with
      | some next => modify fun state => { state with optionPlace := ⟨max next 1, none⟩ }
      | none => raise ("Illegal number: ".toList ++ value)

def declare (name : Octets) (change : Binding → Binding) : Exec Unit :=
  rebind fun bindings =>
    bindings.insert name (change ((bindings.get? name).getD ⟨none, false, false⟩))

def keepOuter (name : Octets) : Exec Unit :=
  modify fun state =>
    { state with
      scope := state.scope.map fun scope =>
        { scope with saved := (name, state.binding? name) :: scope.saved } }

def setOption (letter : Char) (on : Bool) : Exec Unit :=
  modify fun state =>
    let others := state.options.filter (· ≠ letter)
    { state with options := if on then letter :: others else others }

def track (program : Octets) : Exec Unit :=
  modify fun state => { state with tracked := state.tracked.insert program false }

def atLine (line : Nat) : Exec Unit :=
  modify fun state => { state with line := line }

/-- Gives up over what has no meaning, at the line up to which the script has been read. -/
def raiseSyntax (text : String) : Exec α := do
  atLine (← get).reached
  raise ("Syntax error: ".toList ++ text.toList)

def attach (descriptor : Nat) (channel : Channel) : Exec Unit :=
  modify fun state => { state with bench := state.bench.attach descriptor channel }

def settle (tested : Bool) : Exec Unit := do
  let state ← get
  if !tested ∧ state.has 'e' ∧ state.status ≠ 0 then throw .exited

def looped (step : Exec α) : Exec α := do
  let loops := (← get).loops
  modify fun state => { state with loops := loops + 1 }
  after step fun state => { state with loops := loops }

def inside (place : Octets) (step : Exec α) : Exec α := do
  let outer := (← get).place
  modify fun state => { state with place := some place }
  after step fun state => { state with place := outer }

def leaveScope (state : State) : State :=
  match state.scope with
  | some scope =>
      let restored := scope.saved.foldl State.restore state
      { restored with options := scope.options.getD restored.options }
  | none => state

def depthLimit : Nat := 1000

def called (arguments : List Octets) (step : Exec Unit) : Exec Unit := do
  let outer ← get
  if depthLimit ≤ outer.depth then
    raiseText "Maximum function recursion depth (1000) reached"
  modify fun state =>
    { state with
      arguments := arguments
      loops := 0
      depth := outer.depth + 1
      scope := some ⟨[], none⟩
      optionPlace := ⟨1, none⟩ }
  let answer ← attempt step
  let inside ← get
  set { leaveScope inside with
    arguments := outer.arguments
    loops := outer.loops
    depth := outer.depth
    scope := outer.scope
    optionPlace := outer.optionPlace }
  match (inside.scope.map Scope.saved).getD [] |>.find? fun entry => !isName entry.1 with
  | some (name, _) => raise (name ++ ": bad variable name".toList)
  | none =>
      match answer with
      | .error .returned => return ()
      | answer => resume answer

/-- Runs a step in a shell of its own: only the status, what is on the bench, and signals that are
meant for other shells outlive it. -/
def isolated (step : Exec α) : Exec (Except Flow α) := do
  let before ← get
  let answer ← attempt step
  modify fun after =>
    { before with
      status := after.status
      arrived := after.arrived
      bench :=
        { after.bench with
          descriptors := before.bench.descriptors
          disk := { after.bench.disk with here := before.bench.disk.here } } }
  return answer

/-- Only what the shell does not listen to is still ignored in a shell below it. -/
def enterSubshell : Exec Unit :=
  modify fun state =>
    { state with
      traps := state.traps.filter fun entry => entry.2.isEmpty
      isSubshell := true
      reached := 1
      jobs := []
      behind := [] }

end Exec

end Shell

end Bootstrap
