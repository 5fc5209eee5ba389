import Bootstrap.StandIns.Shell.Call

/-!
Running shell scripts over a bench. Fuel bounds how long a script may run.
-/

namespace Bootstrap

namespace Shell

namespace Interpreter

inductive Turn where
  | complete
  | next
  | over
  deriving DecidableEq, Repr

def turn (step : Exec Unit) : Exec Turn := do
  match ← Exec.attempt step with
  | .ok _ => return .complete
  | .error (.leave (loops + 2)) => throw (.leave (loops + 1))
  | .error (.leave _) => return .over
  | .error (.again (loops + 2)) => throw (.again (loops + 1))
  | .error (.again _) => return .next
  | .error flow => throw flow

def dropTrailingLines (octets : Octets) : Octets :=
  (octets.reverse.dropWhile (· = '\n')).reverse

def sinkAt (bench : Bench) (index : Nat) : Bytes :=
  match bench.channels[index]? with
  | some (.sink content) => content
  | _ => []

def scriptOf (bytes : Bytes) : List Char :=
  (Octets.ofBytes bytes).filter (· ≠ '\x00')

def freshNumber (state : State) : Nat :=
  state.number + state.bench.channels.length + state.jobs.length + 1

def startBindings (state : State) : Table Octets Binding :=
  let plain := fun (value : String) => Binding.mk (some value.toList) false false
  let given : List (String × Binding) :=
    [("IFS", plain " \t\n"), ("OPTIND", plain "1"), ("PPID", plain (toString state.parent)),
      ("PS1", plain "$ "), ("PS2", plain "> "), ("PS4", plain "+ "),
      ("PATH", ⟨some "/usr/local/sbin:/usr/local/bin:/usr/sbin:/usr/bin:/sbin:/bin".toList, true, false⟩),
      ("PWD", ⟨some (Process.here state), true, false⟩)]
  given.map fun entry => (entry.1.toList, entry.2)

def inherited (state : State) (outer : Table Octets Binding) : Table Octets Binding :=
  let exported := outer.filter fun entry => entry.2.exported && entry.2.value.isSome
  let known := ["IFS", "OPTIND", "PPID", "PWD"].map String.toList
  exported.foldl
    (fun bindings entry =>
      if known.contains entry.1 then bindings
      else bindings.insert entry.1 { entry.2 with readOnly := false })
    (startBindings state)

def started (state : State) (number parent : Nat) (name : Octets) : State :=
  let next := { state with
    functions := []
    documents := []
    name := name
    arguments := []
    status := 0
    captured := 0
    line := 0
    reached := 1
    place := none
    options := []
    loops := 0
    depth := 0
    scope := none
    traps := state.traps.filter fun entry => entry.2.isEmpty
    isSubshell := false
    beforeTrap := none
    number := number
    parent := parent
    last := none
    jobs := []
    behind := []
    optionPlace := ⟨1, none⟩
    aliases := []
    tracked := [] }
  { next with bindings := inherited next state.bindings }

def writeBefore (descriptors : Table Nat Nat) (text : Octets) : Exec Unit := do
  let inside := (← get).bench.descriptors
  modify fun state => { state with bench := { state.bench with descriptors := descriptors } }
  Exec.tool (Tool.write 2 text)
  modify fun state => { state with bench := { state.bench with descriptors := inside } }

/-- Runs a command of the shell itself; unless it is a special one, its failure is only a status. -/
def perform (name : Octets) (special : Bool) (step : Exec Nat) : Exec Unit := do
  let accept : Exec Unit :=
    modify fun state => { state with bench := { state.bench with refused := false } }
  let answer ← Exec.attempt <| Exec.inside name do
    accept
    let status ← step
    let bench := (← get).bench
    if bench.refused ∧ !bench.canWrite 1 then
      Exec.warn (name ++ ": I/O error".toList)
      Exec.setStatus (status ||| 1)
    else Exec.setStatus status
    accept
  match answer with
  | .error .failed => if special then throw .failed else return ()
  | answer => Exec.resume answer

def missing (word : Octets) : Exec Unit := do
  let disk := (← get).bench.disk
  let refuse := fun (text : String) (status : Nat) => do
    Exec.warn (word ++ ": ".toList ++ text.toList)
    Exec.setStatus status
  if word.contains '/' then
    match disk.look (Tool.path word) with
    | .ok _ => refuse "Permission denied" 126
    | .error .noEntry => refuse "not found" 127
    | .error .notADirectory => refuse "not found" 127
    | .error error => refuse error.reason 126
  else refuse (Callee.refusal (← get) word) 127

def scriptPath (word : Octets) : Exec Octets := do
  let state ← get
  if word.contains '/' then return word
  else
    let places := (Callee.directories state).map fun directory => Callee.within directory word
    match places.find? fun place => state.bench.disk.isFile (Tool.path place) with
    | some place => return place
    | none => Exec.raise (word ++ ": not found".toList)

def scriptAt (word : Octets) : Exec Bytes := do
  match (← get).bench.disk.read (Tool.path word) with
  | .ok bytes => return bytes
  | .error .isADirectory => return []
  | .error error => Exec.raise (Target.refusal "open" "No such file" word error)

def trackStages : List Command → Exec Unit
  | [] => return ()
  | .simple _ _ ([.text name false] :: _) _ :: rest => do
      match Callee.resolve (← get) true name with
      | .program _ => if isName name then Exec.track name
      | _ => pure ()
      trackStages rest
  | _ :: rest => trackStages rest

def showRead (text : List Char) (left : Nat) : Exec Unit := do
  if (← get).has 'v' then
    let (read, rest) := text.splitAt (text.length - left)
    let line := if read.getLast? = some '\n' then []
      else rest.takeWhile (· ≠ '\n') ++ if rest.contains '\n' then ['\n'] else []
    Exec.tool (Tool.write 2 (read ++ line))

def resumed (now before : State) : State :=
  { before with
    arrived := now.arrived
    bench :=
      { now.bench with
        descriptors := before.bench.descriptors
        disk := { now.bench.disk with here := before.bench.disk.here } } }

def putBehind (body : Command) : Exec Unit :=
  modify fun state =>
    let number := freshNumber state
    { state with
      behind := state.behind ++ [(number, body, state)]
      jobs := state.jobs.insert number ⟨0, none, false⟩
      last := some number
      status := 0 }

mutual

/-- What a script prints, without the line ends at its end. -/
def capture : (fuel : Nat) → Command → Exec Octets
  | 0, _ => throw .exited
  | _ + 1, .sequence [] => return []
  | fuel + 1, script => do
      runBehind fuel
      let before ← get
      forked fuel do
        Exec.attach 1 (.sink [])
        run fuel false script
      Process.yieldToSignals
      modify fun state => { state with status := before.status, captured := state.status }
      return dropTrailingLines (scriptOf (sinkAt (← get).bench before.bench.channels.length))

def forked : (fuel : Nat) → Exec Unit → Exec Unit
  | 0, _ => throw .exited
  | fuel + 1, step => do
      runBehind fuel
      let answer ← Exec.isolated do
        Exec.enterSubshell
        ended fuel step
      match answer with
      | .error (.killed signal) =>
          Process.announce signal
          Exec.setStatus (128 + signal)
      | _ => modify fun state => { state with status := state.status % 256 }

/-- Runs a step to the end of its shell, with the action for that end; what is still to run in the
background comes last. -/
def ended : (fuel : Nat) → Exec Unit → Exec Unit
  | 0, _ => throw .exited
  | fuel + 1, step => do
      let answer ← Exec.attempt (ending fuel step)
      runBehind fuel
      Exec.resume answer

def ending : (fuel : Nat) → Exec Unit → Exec Unit
  | 0, _ => throw .exited
  | fuel + 1, step => do
      match ← Exec.attempt step with
      | .error (.killed signal) => throw (.killed signal)
      | _ =>
          let state ← get
          match state.traps.get? 0 with
          | none => return ()
          | some action =>
              set { state with traps := state.traps.erase 0, beforeTrap := some state.status }
              match ← Exec.attempt (runText fuel false false action) with
              | .error (.killed signal) => throw (.killed signal)
              | .error .exited => return ()
              | .error .failed => return ()
              | _ => Exec.setStatus state.status

def handleSignals : (fuel : Nat) → Exec Unit
  | 0 => throw .exited
  | fuel + 1 => do
      let state ← get
      match (Process.arrivedHere state).min? with
      | none => return ()
      | some signal =>
          Process.yieldToSignals
          modify fun state =>
            { state with arrived := state.arrived.filter fun entry => entry ≠ (state.number, signal) }
          let action := (state.traps.get? signal).getD []
          if !action.isEmpty then runAction fuel action
          handleSignals fuel

/-- Runs the action for a signal, which leaves the status as it was unless it returns. -/
def runAction : (fuel : Nat) → Octets → Exec Unit
  | 0, _ => throw .exited
  | fuel + 1, action => do
      let before ← get
      let kept := before.beforeTrap.getD before.status
      modify fun state => { state with beforeTrap := some kept }
      let answer ← Exec.attempt (runText fuel false false action)
      match answer with
      | .error .returned =>
          modify fun state => { state with beforeTrap := before.beforeTrap }
          throw .returned
      | .error flow => throw flow
      | .ok _ => modify fun state => { state with status := kept, beforeTrap := before.beforeTrap }

def runProgram : (fuel : Nat) → (word : Octets) → (path : Octets) → List Octets → Exec Unit
  | 0, _, _, _ => throw .exited
  | fuel + 1, word, path, arguments => do
      match programName? path with
      | none => missing word
      | some name =>
          runBehind fuel
          match tool? name with
          | some run => Exec.setStatus (← Exec.tool (run arguments))
          | none =>
              let state ← get
              runChild fuel (freshNumber state) state.number word arguments

def runChild : (fuel : Nat) → (number parent : Nat) → Octets → List Octets → Exec Unit
  | 0, _, _, _, _ => throw .exited
  | fuel + 1, number, parent, name, arguments => do
      let answer ← Exec.isolated do
        modify fun state => started state number parent name
        shell fuel arguments
      match answer with
      | .error (.killed signal) =>
          Process.announce signal
          Exec.setStatus (128 + signal)
      | _ => modify fun state => { state with status := state.status % 256 }
      Process.yieldToSignals

def shell : (fuel : Nat) → List Octets → Exec Unit
  | 0, _ => throw .exited
  | fuel + 1, words => ended fuel (runCommandLine fuel words)

def runCommandLine : (fuel : Nat) → List Octets → Exec Unit
  | 0, _ => throw .exited
  | fuel + 1, words => do
      let opened ← Declaration.setOptions true (words.length + 1) words
      Declaration.settleMonitor false
      let isInput := (← get).has 's'
      if opened.givesScript then
        match opened.words with
        | [] => Exec.raiseText "-c requires an argument"
        | script :: rest =>
            modify fun state =>
              { state with name := rest.head?.getD state.name, arguments := rest.drop 1 }
            runText fuel false false (script.filter (· ≠ '\x00'))
            if isInput then runInput fuel
      else
        match opened.words with
        | [] =>
            Exec.setOption 's' true
            runInput fuel
        | file :: rest =>
            if isInput then
              modify fun state => { state with arguments := opened.words }
              runInput fuel
            else
              let bytes ← scriptAt file
              modify fun state => { state with name := file, arguments := rest }
              runText fuel false true (scriptOf bytes)

def runInput : (fuel : Nat) → Exec Unit
  | 0 => throw .exited
  | fuel + 1 => do
      let found ← Exec.tool Tool.takeInput
      runText fuel false true (scriptOf (found.toOption.getD []))

def runText : (fuel : Nat) → (tested echoes : Bool) → List Char → Exec Unit
  | 0, _, _, _ => throw .exited
  | fuel + 1, tested, echoes, text => do
      let reached := (← get).reached
      let found ← Exec.after (runLines fuel tested echoes (Source.ofText text)) fun state =>
        { state with reached := reached }
      if !found then Exec.setStatus 0

/-- Runs a text line by line, so that a later line without meaning does not keep an earlier one
from running. Answers whether there was any command. -/
def runLines : (fuel : Nat) → (tested echoes : Bool) → Source → Exec Bool
  | 0, _, _, _ => throw .exited
  | fuel + 1, tested, echoes, source => do
      let state ← get
      let start := { source with
        documents := [], next := state.documents.length, aliases := state.aliases }
      match Reader.line.run start with
      | .error error =>
          if echoes then showRead source.rest error.left
          modify fun state => { state with reached := error.line }
          Exec.raiseSyntax error.text
      | .ok (commands, after) =>
          if echoes then showRead source.rest after.rest.length
          modify fun state =>
            { state with documents := after.documents ++ state.documents, reached := after.line }
          match commands with
          | none => return false
          | some found =>
              runAll fuel tested found
              let later ← runLines fuel tested echoes after
              return later || !found.isEmpty

def runAll : (fuel : Nat) → (tested : Bool) → List Command → Exec Unit
  | 0, _, _ => throw .exited
  | _ + 1, _, [] => return ()
  | fuel + 1, tested, command :: rest => do
      run fuel tested command
      runAll fuel tested rest

/-- Each stage starts with the same status and reads what the one before has written; the last one's
status counts. -/
def runStages : (fuel : Nat) → (tested : Bool) → (before : Nat) → (input : Option Bytes) →
    List Command → Exec Unit
  | 0, _, _, _, _ => throw .exited
  | _ + 1, _, _, _, [] => return ()
  | fuel + 1, tested, before, input, stage :: rest => do
      let index := (← get).bench.channels.length
      Exec.setStatus before
      forked fuel do
        if !rest.isEmpty then Exec.attach 1 (.sink [])
        match input with
        | some bytes => Exec.attach 0 (.source bytes)
        | none => pure ()
        run fuel tested stage
      runStages fuel tested before (some (sinkAt (← get).bench index)) rest

/-- Runs a command. A status that is tested does not end a shell that stops on errors. -/
def run : (fuel : Nat) → (tested : Bool) → Command → Exec Unit
  | 0, _, _ => throw .exited
  | fuel + 1, tested, command => do
      if !(← get).has 'n' then
        runNow fuel tested command
        handleSignals fuel

def runNow : (fuel : Nat) → (tested : Bool) → Command → Exec Unit
  | 0, _, _ => throw .exited
  | fuel + 1, tested, command => do
      let output := capture fuel
      let word := Expansion.text output fuel
      match command with
      | .simple line assignments words redirects =>
          Exec.atLine line
          runSimple fuel tested assignments words redirects
          Exec.settle tested
      | .redirected line body redirects =>
          Exec.atLine line
          let targets ← Expansion.targets output fuel redirects
          Exec.redirecting targets do
            if ← Target.areOpened (Expansion.document output fuel) targets then run fuel tested body
            else Exec.settle tested
      | .subshell line body redirects =>
          Exec.atLine line
          let targets ← Expansion.targets output fuel redirects
          forked fuel do
            Target.openAll (Expansion.document output fuel) true [] targets
            run fuel tested body
          Exec.settle tested
      | .choose condition body otherwise =>
          run fuel true condition
          if (← get).status = 0 then run fuel tested body
          else
            match otherwise with
            | some other => run fuel tested other
            | none => Exec.setStatus 0
      | .loop expected condition body =>
          Exec.looped (runLoop fuel tested expected condition body 0)
      | .each line name words body =>
          Exec.atLine line
          let values ← match words with
            | some given => Expansion.allFields output fuel given
            | none => pure (← get).arguments
          if values.isEmpty then Exec.setStatus 0
          else Exec.looped (runEach fuel tested name values body)
      | .select line subject branches =>
          Exec.atLine line
          runBranches fuel tested (← word subject) branches
      | .define _ name body =>
          modify fun state =>
            { state with
              functions := state.functions.insert name body
              tracked := state.tracked.erase name
              status := 0 }
      | .pipeline stages =>
          runBehind fuel
          trackStages stages
          runStages fuel tested (← get).status none stages
          Exec.settle tested
      | .negate body =>
          run fuel true body
          modify fun state => { state with status := if state.status = 0 then 1 else 0 }
      | .both first second =>
          run fuel true first
          if (← get).status = 0 then run fuel tested second
      | .either first second =>
          run fuel true first
          if (← get).status ≠ 0 then run fuel tested second
      | .sequence commands => runAll fuel tested commands
      | .background line body =>
          Exec.atLine line
          putBehind body

def runBehind : (fuel : Nat) → Exec Unit
  | 0 => throw .exited
  | fuel + 1 => do
      match (← get).behind with
      | [] => return ()
      | (number, body, shell) :: others =>
          modify fun state => { state with behind := others }
          let status := (← get).status
          let answer ← Exec.isolated do
            modify fun state => resumed state shell
            Exec.enterSubshell
            Exec.attach 0 .null
            ended fuel (run fuel false body)
          let job := match answer with
            | .error (.killed signal) => fun _ => Job.mk (128 + signal) (some signal) false
            | _ => fun status => Job.mk (status % 256) none false
          modify fun state =>
            { state with jobs := state.jobs.insert number (job state.status), status := status }
          runBehind fuel

/-- A loop's status is that of its last body, or zero. -/
def runLoop : (fuel : Nat) → (tested expected : Bool) → Command → Command → (last : Nat) → Exec Unit
  | 0, _, _, _, _, _ => throw .exited
  | fuel + 1, tested, expected, condition, body, last => do
      match ← turn (run fuel true condition) with
      | .over => Exec.setStatus last
      | .next => runLoop fuel tested expected condition body last
      | .complete =>
          if decide ((← get).status = 0) = expected then
            match ← turn (run fuel tested body) with
            | .over => return ()
            | _ => runLoop fuel tested expected condition body (← get).status
          else Exec.setStatus last

def runEach : (fuel : Nat) → (tested : Bool) → Octets → List Octets → Command → Exec Unit
  | 0, _, _, _, _ => throw .exited
  | _ + 1, _, _, [], _ => return ()
  | fuel + 1, tested, name, value :: rest, body => do
      Exec.assign name value
      match ← turn (run fuel tested body) with
      | .over => return ()
      | _ => runEach fuel tested name rest body

def runBranches : (fuel : Nat) → (tested : Bool) → Octets →
    List (List (List Piece) × Command) → Exec Unit
  | 0, _, _, _ => throw .exited
  | _ + 1, _, _, [] => Exec.setStatus 0
  | fuel + 1, tested, subject, (choices, body) :: rest => do
      if ← Expansion.matchesAny (capture fuel) fuel subject choices then
        match body with
        | .sequence [] => Exec.setStatus 0
        | _ => run fuel tested body
      else runBranches fuel tested subject rest

def runSimple : (fuel : Nat) → (tested : Bool) → List (Octets × List Piece) → List (List Piece) →
    List Redirect → Exec Unit
  | 0, _, _, _, _ => throw .exited
  | fuel + 1, tested, assignments, words, redirects => do
      let output := capture fuel
      modify fun state => { state with captured := 0 }
      let call ← Call.ofWords output fuel words
      let state ← get
      let callee := call.callee state
      let special := call.isSpecial state
      let targets ← Expansion.targets output fuel redirects
      let outer := (← get).bench.descriptors
      let restore := Exec.withRestored outer targets
      if ← Target.areOpened (Expansion.document output fuel) targets then
        if call.words.isEmpty then
          Exec.after (assignAll fuel outer assignments []) restore
          modify fun state => { state with status := state.captured }
        else if Call.builtinName? callee = some "exec" then
          assignAndRun fuel tested special outer assignments call callee
        else Exec.after (assignAndRun fuel tested special outer assignments call callee) restore
      else
        modify restore
        if special then throw .failed

def assignAll : (fuel : Nat) → (outer : Table Nat Nat) → List (Octets × List Piece) →
    (words : List Octets) → Exec Unit
  | 0, _, _, _ => throw .exited
  | fuel + 1, outer, assignments, words => do
      let shown ← assignEach fuel assignments
      if (← get).has 'x' then
        let mark := ((← get).valueOf? "PS4".toList).getD []
        let start ← Expansion.prompt (capture fuel) fuel (Reader.substitution fuel) mark
        writeBefore outer (start ++ [' '].intercalate (shown ++ words) ++ ['\n'])

def assignEach : (fuel : Nat) → List (Octets × List Piece) → Exec (List Octets)
  | 0, _ => throw .exited
  | _ + 1, [] => return []
  | fuel + 1, (name, pieces) :: rest => do
      let value ← Expansion.value (capture fuel) fuel pieces
      Exec.assign name value
      return (name ++ '=' :: value) :: (← assignEach fuel rest)

/-- Runs a command with assignments that are for it alone, unless it is a special one. -/
def assignAndRun : (fuel : Nat) → (tested special : Bool) → (outer : Table Nat Nat) →
    List (Octets × List Piece) → Call → Callee → Exec Unit
  | 0, _, _, _, _, _, _ => throw .exited
  | fuel + 1, tested, special, outer, assignments, call, callee => do
      let names := assignments.map Prod.fst
      let before ← get
      let replaces := Call.builtinName? callee = some "exec" && 1 < call.words.length
      let step := fun (exports : Bool) => do
        assignAll fuel outer assignments call.fields
        if exports then
          modify fun state =>
            { state with
              bindings := state.bindings.map fun entry =>
                if names.contains entry.1 then (entry.1, { entry.2 with exported := true })
                else entry }
        invoke fuel tested special call.standard call.words callee
      if special then step replaces
      else
        Exec.after (step true) fun state =>
          names.foldl (fun current name => current.restore (name, before.binding? name)) state

def invoke : (fuel : Nat) → (tested special standard : Bool) → List Octets → Callee → Exec Unit
  | 0, _, _, _, _, _ => throw .exited
  | fuel + 1, tested, special, standard, words, callee => do
      let word := words.head?.getD []
      let arguments := words.drop 1
      match callee with
      | .function body => Exec.called arguments (run fuel tested body)
      | .builtin name =>
          if name = "local" ∧ !special then Exec.setStatus 0
          else perform word special (runBuiltin fuel tested name arguments)
      | _ =>
          let state ← get
          let places := if standard then toolDirectories else Callee.directories state
          match if word.contains '/' then some word else Callee.search places word with
          | some path =>
              if !standard ∧ !word.contains '/' then Exec.track word
              runProgram fuel word path arguments
          | none => missing word

def runBuiltin : (fuel : Nat) → (tested : Bool) → String → List Octets → Exec Nat
  | 0, _, _, _ => throw .exited
  | fuel + 1, tested, name, arguments => do
      match name with
      | "eval" =>
          runText fuel tested false ([' '].intercalate arguments)
          return (← get).status
      | "." => runFile fuel arguments
      | "exec" => runInstead fuel arguments
      | "wait" =>
          runBehind fuel
          Process.wait arguments
      | "command" => Callee.tell arguments
      | "type" => Callee.describeAll arguments
      | "hash" => Callee.find arguments
      | _ =>
          match Builtins.plain? name with
          | some step => step arguments
          | none => return 127

def runFile : (fuel : Nat) → List Octets → Exec Nat
  | 0, _ => throw .exited
  | fuel + 1, arguments => do
      match ← ShortOption.none' arguments with
      | [] => return 0
      | word :: _ =>
          let path ← scriptPath word
          let bytes ← scriptAt path
          match ← Exec.attempt (Exec.inside path (runText fuel false true (scriptOf bytes))) with
          | .error .returned => return (← get).status
          | answer =>
              Exec.resume answer
              return (← get).status

def runInstead : (fuel : Nat) → List Octets → Exec Nat
  | 0, _ => throw .exited
  | _ + 1, [] => return 0
  | fuel + 1, word :: arguments => do
      let state ← get
      let path := if word.contains '/' then some word
        else Callee.search (Callee.directories state) word
      match path.bind programName? with
      | none =>
          missing word
          if Callee.refusal state word = "Permission denied" then Exec.setStatus 126
          throw .exited
      | some name =>
          modify fun state => { state with traps := state.traps.erase 0 }
          runBehind fuel
          match tool? name with
          | some run => Exec.setStatus (← Exec.tool (run arguments))
          | none =>
              let answer ← Exec.isolated do
                modify fun state => started state state.number state.parent word
                shell fuel arguments
              match answer with
              | .error (.killed signal) => throw (.killed signal)
              | _ => pure ()
          throw .exited

end

end Interpreter

end Shell

end Bootstrap
