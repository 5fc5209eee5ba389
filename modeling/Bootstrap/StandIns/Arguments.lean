import Bootstrap.CommandLine.Program
import Bootstrap.StandIns.Plain

/-!
A stand-in for the package that reads the words of a command line: options with and without values,
and one configuration file. The command takes any such reader, and no law rests on this one.
-/

namespace Bootstrap

namespace Arguments

open CommandLine

inductive Request where
  | run (invocation : Invocation)
  | version
  | help
  deriving DecidableEq, Repr

inductive Switch where
  | snapshot
  | json
  | version
  | help
  deriving DecidableEq, Repr

inductive Slot where
  | stages
  | filter
  | logLevel
  | logFile
  | config
  deriving DecidableEq, Repr

namespace Switch

def all : List Switch :=
  [.snapshot, .json, .version, .help]

def name : Switch → String
  | .snapshot => "snapshot"
  | .json => "json"
  | .version => "version"
  | .help => "help"

def ofName? (name : String) : Option Switch :=
  all.find? fun switch => switch.name = name

def ofLetter? (letter : Char) : Option Switch :=
  if letter = 'V' then some .version else if letter = 'h' then some .help else none

end Switch

namespace Slot

def named : List (String × Slot) :=
  [("stages", .stages), ("filter", .filter), ("log-level", .logLevel), ("log-file", .logFile)]

def ofName? (name : String) : Option Slot :=
  (named.find? fun entry => entry.1 = name).map Prod.snd

def shown : Slot → String
  | .stages => "--stages <STAGES>"
  | .filter => "--filter <FILTER>"
  | .logLevel => "--log-level <LOG_LEVEL>"
  | .logFile => "--log-file <PATH>"
  | .config => "[CONFIG]"

/-- Only stages may be given more than once, and then add up. -/
def addsUp (slot : Slot) : Bool :=
  slot = .stages

end Slot

inductive UsageError where
  | unexpected (argument : String)
  | unneededValue (value option : String)
  | missingValue (slot : Slot)
  | repeated (option : String)
  | invalid (value : String) (slot : Slot) (reason : String)
  deriving DecidableEq, Repr

def stressed (text : String) : String :=
  "\x1b[1m" ++ text ++ "\x1b[0m"

def UsageError.complaint : UsageError → String
  | .unexpected argument => "unexpected argument '" ++ stressed argument ++ "' found"
  | .unneededValue value option =>
      "unexpected value '" ++ stressed value ++ "' for '" ++ stressed option ++
        "' found; no more were expected"
  | .missingValue slot =>
      "a value is required for '" ++ stressed slot.shown ++ "' but none was supplied"
  | .repeated option => "the argument '" ++ stressed option ++ "' cannot be used multiple times"
  | .invalid value slot reason =>
      "invalid value '" ++ stressed value ++ "' for '" ++ stressed slot.shown ++ "': " ++ reason

/-- The message without styles, and without those that an argument brings along. -/
def UsageError.text (error : UsageError) : String :=
  Text.plain (stressed "error:" ++ " " ++ error.complaint ++ "\n\nFor more information, try '" ++
    stressed "--help" ++ "'.\n")

def UsageError.message (error : UsageError) : String :=
  (Text.lines error.text).head?.getD ""

def readValue {Value : Type} (slot : Slot) (read : String → Except String Value) (text : String) :
    Except UsageError Value :=
  (read text).mapError fun reason => .invalid text slot reason

def readPath (slot : Slot) (text : String) : Except UsageError Path :=
  if text.isEmpty then .error (.missingValue slot) else .ok ⟨text⟩

/-- Arguments read so far. A value waits in `pending` until something else follows it. -/
structure Progress where
  invocation : Invocation
  switches : List Switch
  filled : List Slot
  pending : Option (Slot × Option String)
  hasConfig : Bool
  onlyOperands : Bool
  deriving Repr

namespace Progress

def start : Progress :=
  ⟨.default, [], [], none, false, false⟩

def store (invocation : Invocation) (value : String) : Slot → Except UsageError Invocation
  | .stages => do
      let stages ← (Text.split ',' value).mapM (readValue .stages readStage)
      .ok { invocation with stages := some (invocation.stages.getD [] ++ stages) }
  | .filter => .ok { invocation with filter := some value }
  | .logLevel => do .ok { invocation with verbosity := some (← readValue .logLevel readVerbosity value) }
  | .logFile => do .ok { invocation with logFile := some (← readPath .logFile value) }
  | .config => do .ok { invocation with config := ← readPath .config value }

/-- A second value is refused before it is looked at. -/
def fill (progress : Progress) (slot : Slot) (value : String) : Except UsageError Progress :=
  if progress.filled.contains slot ∧ !slot.addsUp then .error (.repeated slot.shown)
  else do
    let invocation ← store progress.invocation value slot
    .ok { progress with invocation := invocation, filled := slot :: progress.filled }

def resolve (progress : Progress) : Except UsageError Progress :=
  match progress.pending with
  | none => .ok progress
  | some (slot, none) => .error (.missingValue slot)
  | some (slot, some value) => { progress with pending := none }.fill slot value

def switchOn (progress : Progress) (switch : Switch) :
    Except UsageError (Request ⊕ Progress) := do
  let resolved ← progress.resolve
  if resolved.switches.contains switch then .error (.repeated ("--" ++ switch.name))
  else
    let next := { resolved with switches := switch :: resolved.switches }
    match switch with
    | .snapshot => .ok (.inr { next with invocation := { next.invocation with snapshot := true } })
    | .json => .ok (.inr { next with invocation := { next.invocation with json := true } })
    | .version => .ok (.inl .version)
    | .help => .ok (.inl .help)

def long (progress : Progress) (name : String) (value : Option String) :
    Except UsageError (Request ⊕ Progress) :=
  match Switch.ofName? name, Slot.ofName? name, value with
  | some switch, _, some text => .error (.unneededValue text ("--" ++ switch.name))
  | some switch, _, none => progress.switchOn switch
  | none, some slot, some text => do .ok (.inr (← (← progress.resolve).fill slot text))
  | none, some slot, none => do
      .ok (.inr { ← progress.resolve with pending := some (slot, none) })
  | none, none, _ => .error (.unexpected ("--" ++ name))

/-- The first of the letters behind a single hyphen decides. -/
def short (progress : Progress) : List Char → Except UsageError (Request ⊕ Progress)
  | [] => .ok (.inr progress)
  | letter :: _ =>
      match Switch.ofLetter? letter with
      | some switch => progress.switchOn switch
      | none => .error (.unexpected (String.ofList ['-', letter]))

def operand (progress : Progress) (word : String) : Except UsageError Progress :=
  match progress.pending, progress.onlyOperands with
  | some (slot, none), false => .ok { progress with pending := some (slot, some word) }
  | _, _ =>
      if progress.hasConfig then .error (.unexpected word)
      else do
        .ok { ← progress.resolve with pending := some (.config, some word), hasConfig := true }

def next (progress : Progress) (word : String) : Except UsageError (Request ⊕ Progress) :=
  if progress.onlyOperands then do .ok (.inr (← progress.operand word))
  else
    match word.toList with
    | ['-', '-'] => .ok (.inr { progress with onlyOperands := true })
    | '-' :: '-' :: rest =>
        match Text.splitFirst? '=' rest with
        | some (name, value) => progress.long (String.ofList name) (some (String.ofList value))
        | none => progress.long (String.ofList rest) none
    | '-' :: letter :: rest => progress.short (letter :: rest)
    | _ => do .ok (.inr (← progress.operand word))

end Progress

def readFrom (progress : Progress) : List String → Except UsageError Request
  | [] => do .ok (.run (← progress.resolve).invocation)
  | word :: rest => do
      match ← progress.next word with
      | .inl request => .ok request
      | .inr after => readFrom after rest

def read (words : List String) : Except UsageError Request :=
  readFrom .start words

def versionText : String :=
  "bootcheck 0.1.0"

def helpText : String :=
  "Bootstrap a self-hosting compiler stage by stage and verify the fixpoint\n\n" ++
    "Usage: bootcheck [OPTIONS] [CONFIG]"

def reader : WordReader := fun words =>
  match read words with
  | .error error => .error ⟨2, "", error.message ++ "\n"⟩
  | .ok .version => .error ⟨0, versionText ++ "\n", ""⟩
  | .ok .help => .error ⟨0, helpText ++ "\n", ""⟩
  | .ok (.run invocation) => .ok invocation

end Arguments

end Bootstrap
