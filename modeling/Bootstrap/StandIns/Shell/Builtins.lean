import Bootstrap.StandIns.Shell.Cat
import Bootstrap.StandIns.Shell.Condition
import Bootstrap.StandIns.Shell.Copy
import Bootstrap.StandIns.Shell.Count
import Bootstrap.StandIns.Shell.Excerpt
import Bootstrap.StandIns.Shell.Exchange
import Bootstrap.StandIns.Shell.Files
import Bootstrap.StandIns.Shell.Input
import Bootstrap.StandIns.Shell.Names
import Bootstrap.StandIns.Shell.Print
import Bootstrap.StandIns.Shell.Process
import Bootstrap.StandIns.Shell.Tee

/-!
The plain tools and the shell's own commands by name, and what a word means where a command stands.
-/

namespace Bootstrap

namespace Shell

def plainTool? (name : String) : Option (List Octets → Tool Nat) :=
  match name with
  | "cat" => some Cat.run
  | "head" => some (Excerpt.run "head" false)
  | "tail" => some (Excerpt.run "tail" true)
  | "wc" => some Count.run
  | "tr" => some Exchange.run
  | "tee" => some Tee.run
  | "basename" => some Names.baseName
  | "dirname" => some Names.directoryName
  | "cp" => some Copy.run
  | "mv" => some Files.move
  | "rm" => some Files.remove
  | "mkdir" => some Files.makeDirs
  | "rmdir" => some Files.removeDirs
  | "touch" => some Files.touch
  | "test" => some fun words => do return (Condition.test (← get).disk words).1
  | "[" => some fun words => do return (Condition.bracket (← get).disk words).1
  | "printf" => some fun words => do
      let printed := Print.printf words
      Tool.write 1 printed.text
      return printed.status
  | "echo" => some fun words => do
      Tool.write 1 (Print.echo false words)
      return 0
  | "true" => some fun _ => return 0
  | "false" => some fun _ => return 1
  | "sleep" => some fun _ => return 0
  | _ => none

def tool? (name : String) : Option (List Octets → Tool Nat) :=
  (plainTool? name).map fun run words => Tool.finished name (run words)

def toolDirectories : List Octets :=
  ["/usr/bin".toList, "/bin".toList]

def isShellName (name : String) : Bool :=
  name = "sh" || name = "dash"

def isProgramName (name : String) : Bool :=
  isShellName name || (plainTool? name).isSome

def programName? (path : Octets) : Option String :=
  let found := toolDirectories.findSome? fun directory =>
    (directory ++ ['/']).isPrefixOf? path
  (found.map Octets.toText).filter isProgramName

namespace Builtins

def exit (words : List Octets) : Exec Nat := do
  match words with
  | [] => modify fun state => { state with status := state.beforeTrap.getD state.status }
  | word :: _ => Exec.setStatus (← Exec.number word)
  throw .exited

def return' (words : List Octets) : Exec Nat := do
  match words with
  | [] => modify fun state => { state with status := state.beforeTrap.getD state.status }
  | word :: _ => Exec.setStatus (← Exec.number word)
  throw .returned

/-- Leaves as many loops as there are at most; outside all of them there is nothing to do. -/
def leaveLoops (flow : Nat → Flow) (words : List Octets) : Exec Nat := do
  let count ← match words with
    | [] => pure 1
    | word :: _ => do
        let count ← Exec.number word
        if count = 0 then Exec.raise ("Illegal number: ".toList ++ word) else pure count
  let loops := (← get).loops
  if loops = 0 then return 0
  else
    Exec.setStatus 0
    throw (flow (min count loops))

def warnAll : List Octets → Exec Unit
  | [] => return ()
  | complaint :: rest => do
      Exec.warn complaint
      warnAll rest

def concluded (result : Nat × List Octets) : Exec Nat := do
  warnAll result.2
  return result.1

def printf (words : List Octets) : Exec Nat := do
  let printed := Print.printf words
  warnAll printed.complaints
  Exec.tool (Tool.write 1 printed.text)
  return printed.status

def plain? (name : String) : Option (List Octets → Exec Nat) :=
  match name with
  | ":" => some fun _ => return 0
  | "true" => some fun _ => return 0
  | "false" => some fun _ => return 1
  | "exit" => some exit
  | "return" => some return'
  | "break" => some (leaveLoops .leave)
  | "continue" => some (leaveLoops .again)
  | "shift" => some Declaration.shift
  | "set" => some Declaration.set'
  | "unset" => some Declaration.forgetNames
  | "export" => some Declaration.exportNames
  | "readonly" => some Declaration.protectNames
  | "local" => some Declaration.localNames
  | "getopts" => some Declaration.readOption
  | "alias" => some Declaration.aliases
  | "unalias" => some Declaration.unalias
  | "read" => some Input.read
  | "cd" => some Process.changeDirectory
  | "chdir" => some Process.changeDirectory
  | "pwd" => some Process.showHere
  | "kill" => some Process.kill
  | "wait" => some Process.wait
  | "trap" => some Process.trap
  | "umask" => some Process.mask
  | "times" => some fun _ => Process.times
  | "jobs" => some fun _ => return 0
  | "fg" => some fun _ => Process.noJob
  | "bg" => some fun _ => Process.noJob
  | "ulimit" => some Process.limit
  | "test" => some fun words => do concluded (Condition.test (← get).bench.disk words)
  | "[" => some fun words => do concluded (Condition.bracket (← get).bench.disk words)
  | "echo" => some fun words => do
      Exec.tool (Tool.write 1 (Print.echo true words))
      return 0
  | "printf" => some printf
  | _ => none

def others : List String :=
  ["eval", ".", "exec", "command", "type", "hash"]

def isBuiltin (name : String) : Bool :=
  others.contains name || (plain? name).isSome

def declares (name : String) : Bool :=
  ["export", "readonly", "local", "alias"].contains name

end Builtins

/-- What a word means where a command stands. -/
inductive Callee where
  | function (body : Command)
  | builtin (name : String)
  | program (path : Octets)
  | missing

namespace Callee

def directories (state : State) : List Octets :=
  match state.valueOf? "PATH".toList with
  | some paths => paths.splitOn ':'
  | none => []

def within (directory word : Octets) : Octets :=
  if directory.isEmpty then word else directory ++ '/' :: word

def search (places : List Octets) (word : Octets) : Option Octets :=
  if isProgramName (Octets.toText word) then
    (places.find? fun directory => toolDirectories.contains directory).map fun directory =>
      within directory word
  else none

/-- Why nothing can be called by a name: what bears it in the directories is no program. -/
def refusal (state : State) (word : Octets) : String :=
  let bears := fun (directory : Octets) =>
    if word.isEmpty then toolDirectories.contains directory
    else (state.bench.disk.look (Tool.path (within directory word))).isOk
  if (directories state).any bears then "Permission denied" else "not found"

def resolve (state : State) (withFunctions : Bool) (word : Octets) : Callee :=
  if word.contains '/' then .program word
  else
    match if withFunctions then state.functions.get? word else none with
    | some body => .function body
    | none =>
        if Builtins.isBuiltin (Octets.toText word) then .builtin (Octets.toText word)
        else
          match search (directories state) word with
          | some path => .program path
          | none => .missing

def description? (state : State) (verbose : Bool) (word : Octets) : Option Octets :=
  let told := fun (text : String) => some (if verbose then word ++ text.toList else word)
  if Token.isKeyword word then told " is a shell keyword"
  else
    match state.aliases.get? word with
    | some value =>
        some <|
          if verbose then word ++ " is an alias for ".toList ++ value
          else "alias ".toList ++ Declaration.aliasLine word value
    | none =>
        match resolve state true word with
        | .function _ => told " is a shell function"
        | .builtin _ =>
            told (if isSpecial word then " is a special shell builtin" else " is a shell builtin")
        | .program path =>
            let isThere := (state.bench.disk.look (Tool.path word)).isOk
            if word.contains '/' ∧ !isThere ∧ (programName? word).isNone then none
            else
              let known := (state.tracked.get? word).isSome
              let link := if known then " is a tracked alias for " else " is "
              some (if verbose then word ++ link.toList ++ path else path)
        | .missing => none

def lookUp (word : Octets) : Exec Unit := do
  match resolve (← get) true word with
  | .program _ => if !word.contains '/' then Exec.track word
  | _ => return ()

def describe (verbose : Bool) (word : Octets) : Exec Nat := do
  match description? (← get) verbose word with
  | some text =>
      Exec.showLine text
      lookUp word
      return 0
  | none =>
      if verbose then Exec.showLine (word ++ ": not found".toList)
      return 127

def describeAll : List Octets → Exec Nat
  | [] => return 0
  | word :: rest => do
      let status ← describe true word
      return max status (← describeAll rest)

def tell (words : List Octets) : Exec Nat := do
  let (letters, given) ← ShortOption.ofWords ['p', 'v', 'V'] [] words
  match given with
  | [] => return 0
  | word :: _ =>
      if ShortOption.has 'V' letters then describe true word
      else if ShortOption.has 'v' letters then describe false word
      else return 0

def findAll : List Octets → Exec Nat
  | [] => return 0
  | word :: rest => do
      let status ← match resolve (← get) true word with
        | .missing => do
            Exec.warn (word ++ ": ".toList ++ (refusal (← get) word).toList)
            pure 1
        | _ => do
            lookUp word
            pure 0
      return max status (← findAll rest)

/-- Where a name stands in the list of programs: names are spread over places by their letters. -/
def bucket (name : Octets) : Nat :=
  let first := (name.head?.map Char.toNat).getD 0
  (first * 16 + (name.map Char.toNat).foldl (· + ·) 0) % 32768 % 31

def listing (state : State) : List Octets :=
  let sorted := state.tracked.mergeSort fun left right => decide (bucket left.1 ≤ bucket right.1)
  sorted.filterMap fun (name, isOld) =>
    (search (directories state) name).map fun path => path ++ if isOld then ['*'] else []

def find (words : List Octets) : Exec Nat := do
  let (letters, given) ← ShortOption.ofWords ['r'] [] words
  if !letters.isEmpty then
    modify fun state => { state with tracked := [] }
    return 0
  else if given.isEmpty then
    Exec.showLines (listing (← get))
    return 0
  else findAll given

end Callee

end Shell

end Bootstrap
