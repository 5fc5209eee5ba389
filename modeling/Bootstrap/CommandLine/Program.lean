import Bootstrap.CommandLine.Invocation
import Bootstrap.CommandLine.Summary
import Bootstrap.External.Run
import Bootstrap.Settings.Text

/-!
The command as a whole: from its arguments and the disk to its output, its exit code and the disk
afterwards.
-/

namespace Bootstrap

namespace CommandLine

structure Ending where
  code : Nat
  stdout : String
  stderr : String
  disk : Disk
  deriving DecidableEq, Repr

inductive StartError where
  | missingConfig (path : Path)
  | unreadableConfig (path : Path) (reason : String)
  | malformedConfig (path : Path) (fault : Settings.ReadFault)
  | unwritableLog (path : Path) (error : FileError)
  deriving DecidableEq, Repr

def StartError.message : StartError → String
  | .missingConfig path =>
      "'" ++ path.text ++ "' not found\n\nHint: create '" ++ path.text ++
        "' describing the compiler source, snapshot and test corpus"
  | .unreadableConfig path reason => "cannot read '" ++ path.text ++ "': " ++ reason
  | .malformedConfig path fault =>
      "cannot parse '" ++ path.text ++ "': " ++ fault.message?.getD "malformed JSON"
  | .unwritableLog path error =>
      "cannot open log file '" ++ path.text ++ "': " ++ error.message

def baseOf (config : Path) : Path :=
  match config.parent? with
  | some parent => if parent.text.isEmpty then ⟨"."⟩ else parent
  | none => ⟨"."⟩

def readText (disk : Disk) (path : Path) : Except StartError String :=
  if !disk.contains path then .error (.missingConfig path)
  else
    match disk.read path with
    | .error error => .error (.unreadableConfig path error.message)
    | .ok bytes =>
        match Utf8.decode? bytes with
        | none => .error (.unreadableConfig path "stream did not contain valid UTF-8")
        | some text => .ok text

def readSettings (disk : Disk) (path : Path) : Except StartError Settings := do
  match Settings.parse (← readText disk path) with
  | .ok settings => .ok (settings.resolved (baseOf path))
  | .error fault => .error (.malformedConfig path fault)

def startSession (settings : Settings) (logFile : Option Path) (time : Nat) (disk : Disk) :
    Except StartError (Session External.World) :=
  let plan := Log.Plan.withConsole ⟨.ofVerbosity settings.verbosity, []⟩
  let session : Session External.World := .start (.start disk) (plan.start time)
  match logFile with
  | none => .ok session
  | some path =>
      match External.logTo path session with
      | .ok logging => .ok logging
      | .error error => .error (.unwritableLog path error)

def conclude (json : Bool) (returned : Except RunError Summary)
    (session : Session External.World) : Ending :=
  let log := session.logger.console.map Log.Record.format
  let code := if succeeded returned then 0 else 1
  if json then
    ⟨code, (jsonOf session.entries returned).pretty ++ "\n", joinLines log, session.world.disk⟩
  else
    ⟨code, joinLines (textLines session.entries returned),
      joinLines (log ++ complaintLines returned), session.world.disk⟩

/-- A run that crashes takes the command with it: the summary is missing, and what was printed
before stands. -/
def finish (json : Bool) (result : Result RunError Summary) (session : Session External.World) :
    Ending :=
  match result.returned? with
  | some returned => conclude json returned session
  | none =>
      let printed := if json then [] else session.entries.filterMap Entry.line?
      ⟨101, joinLines printed, joinLines (session.logger.console.map Log.Record.format),
        session.world.disk⟩

/-- Numbers that come from outside: the name of this command's engines and the time of day. -/
structure Moment where
  family : Nat
  time : Nat
  deriving DecidableEq, Repr

def perform (tools : Tools) (moment : Moment) (invocation : Invocation) (disk : Disk) :
    Except StartError Ending := do
  let settings := invocation.applyTo (← readSettings disk invocation.config)
  let session ← startSession settings invocation.logFile moment.time disk
  let (result, final) :=
    (External.run tools moment.family settings invocation.filter).run session
  .ok (finish invocation.json result final)

/-- What the reader of the words says itself, instead of asking for a run. -/
structure Reply where
  code : Nat
  stdout : String
  stderr : String
  deriving DecidableEq, Repr

abbrev WordReader := List String → Except Reply Invocation

def execute (reader : WordReader) (tools : Tools) (moment : Moment) (words : List String)
    (disk : Disk) : Ending :=
  match reader words with
  | .error reply => ⟨reply.code, reply.stdout, reply.stderr, disk⟩
  | .ok invocation =>
      match perform tools moment invocation disk with
      | .ok ending => ending
      | .error error => ⟨1, "", "Error: " ++ error.message ++ "\n", disk⟩

end CommandLine

end Bootstrap
