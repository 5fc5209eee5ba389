import Bootstrap.StandIns.Shell.Choice
import Bootstrap.StandIns.Shell.Options

/-!
The tool that copies files and directories.
-/

namespace Bootstrap

namespace Shell

namespace Copy

inductive Backup where
  | simple
  | numbered
  | existing
  deriving DecidableEq, Repr

inductive Present where
  | replaced
  | asked
  | kept
  deriving DecidableEq, Repr

structure Request where
  recursive : Bool
  force : Bool
  links : Bool
  symbolic : Bool
  removes : Bool
  verbose : Bool
  parents : Bool
  emptied : Bool
  updates : Bool
  plainTarget : Bool
  present : Present
  backup : Option Backup
  suffix : Octets
  directory : Option Octets
  explains : Bool
  sparse : String
  reflink : String
  deriving DecidableEq, Repr

def forms : List OptionForm :=
  [.flag 'a' "archive", .nameOnly "attributes-only", .letterOnly 'b',
    ⟨"backup", none, some "backup", .optional⟩, .nameOnly "copy-contents", .letterOnly 'd',
    .nameOnly "debug", .flag 'f' "force", .letterOnly 'H', .flag 'i' "interactive",
    .flag 'l' "link", .flag 'L' "dereference", .flag 'n' "no-clobber",
    .flag 'P' "no-dereference", .letterOnly 'p', ⟨"preserve", none, some "preserve", .optional⟩,
    ⟨"no-preserve", none, some "no-preserve", .required⟩, .nameOnly "parents",
    .flag 'R' "recursive", ⟨"recursive", some 'r', none, .none⟩,
    ⟨"reflink", none, some "reflink", .optional⟩, .nameOnly "remove-destination",
    ⟨"sparse", none, some "sparse", .required⟩, .nameOnly "strip-trailing-slashes",
    .flag 's' "symbolic-link", .valued 'S' "suffix", .valued 't' "target-directory",
    .flag 'T' "no-target-directory", ⟨"update", some 'u', none, .none⟩,
    ⟨"update", none, some "update", .optional⟩, .flag 'v' "verbose", .flag 'x' "one-file-system",
    .letterOnly 'Z', ⟨"context", none, some "context", .optional⟩] ++ OptionForm.standard

def start : Request :=
  { recursive := false, force := false, links := false, symbolic := false, removes := false,
    verbose := false, parents := false, emptied := false, updates := false,
    plainTarget := false, present := .replaced, backup := none, suffix := ['~'],
    directory := none, explains := false, sparse := "auto", reflink := "auto" }

def attributes (subject : String) : Choice :=
  ⟨subject, [["mode"], ["timestamps"], ["ownership"], ["links"], ["context"], ["xattr"], ["all"]]⟩

def backups : Choice :=
  ⟨"backup type", [["none", "off"], ["simple", "never"], ["existing", "nil"], ["numbered", "t"]]⟩

def sparseness : Choice :=
  ⟨"--sparse", [["never"], ["auto"], ["always"]]⟩

def cloning : Choice :=
  ⟨"--reflink", [["auto"], ["always"], ["never"]]⟩

def updating : Choice :=
  ⟨"--update", [["all"], ["none"], ["older"]]⟩

def commaParts (text : Octets) : List Octets :=
  let (last, before) := text.foldr (fun character (part, parts) =>
    if character = ',' then ([], part :: parts) else (character :: part, parts)) ([], [])
  last :: before

def allMean (choice : Choice) : List Octets → Except String Unit
  | [] => .ok ()
  | part :: rest => do
      let _ ← choice.meaning part
      allMean choice rest

structure Misuse where
  text : String
  pointed : Bool

def pointed (found : Except String α) : Except Misuse α :=
  found.mapError fun text => ⟨text, true⟩

def withGiven (request : Request) (given : Given) : Except Misuse Request := do
  match given.key, given.value with
  | "archive", _ => return { request with recursive := true }
  | "attributes-only", _ => return { request with emptied := true }
  | "force", _ => return { request with force := true }
  | "interactive", _ => return { request with present := .asked }
  | "link", _ => return { request with links := true }
  | "no-clobber", _ => return { request with present := .kept }
  | "parents", _ => return { request with parents := true }
  | "recursive", _ => return { request with recursive := true }
  | "remove-destination", _ => return { request with removes := true }
  | "symbolic-link", _ => return { request with symbolic := true }
  | "target-directory", value =>
      if request.directory.isSome then throw ⟨"multiple target directories specified", false⟩
      else return { request with directory := value }
  | "no-target-directory", _ => return { request with plainTarget := true }
  | "verbose", _ => return { request with verbose := true }
  | "debug", _ => return { request with verbose := true, explains := true }
  | "preserve", some value => do
      pointed (allMean (attributes "--preserve") (commaParts value))
      return request
  | "no-preserve", some value => do
      pointed (allMean (attributes "--no-preserve") (commaParts value))
      return request
  | "sparse", some value => do
      let meaning ← pointed (sparseness.meaning value)
      return { request with sparse := meaning }
  | "reflink", value => do
      let meaning ← pointed (cloning.meaning (value.getD "always".toList))
      return { request with reflink := meaning }
  | "update", value => do
      let meaning ← pointed (updating.meaning (value.getD "older".toList))
      return { request with
        updates := meaning = "older"
        present := if meaning = "none" then .kept else request.present }
  | _, _ => return request

def withAll (request : Request) : List Given → Except Misuse Request
  | [] => .ok request
  | given :: rest => do withAll (← withGiven request given) rest

def backupOf (sorted : Sorted) : Except String (Option Backup) := do
  let asked := sorted.given.any fun given => ["b", "backup", "suffix"].contains given.key
  let kind ← match sorted.valueOf? "backup" with
    | some value => backups.meaning value
    | none => pure "existing"
  return if !asked then none
    else if kind = "simple" then some .simple
    else if kind = "numbered" then some .numbered
    else if kind = "existing" then some .existing
    else none

/-- The suffix of kept files; one that would lead elsewhere is no suffix. -/
def suffixOf (sorted : Sorted) : Octets :=
  match sorted.valueOf? "suffix" with
  | some (first :: rest) =>
      let trimmed := ((first :: rest).reverse.dropWhile (· = '/')).reverse
      if trimmed.isEmpty ∨ trimmed.contains '/' then ['~'] else first :: rest
  | _ => ['~']

def requestOf (sorted : Sorted) : Except Misuse Request := do
  let request ← withAll start sorted.given
  match sorted.trouble with
  | some text => throw ⟨text, true⟩
  | none => pure ()
  if request.links ∧ request.symbolic then
    throw ⟨"cannot make both hard and symbolic links", true⟩
  if request.reflink = "always" ∧ request.sparse ≠ "auto" then
    throw ⟨"--reflink can be used only with --sparse=auto", true⟩
  let backup ← pointed (backupOf sorted)
  return { request with backup := backup, suffix := suffixOf sorted }

def complain (text : String) : Tool Unit :=
  Tool.complain "cp" text

def fail (text : String) : Tool Bool := do
  complain text
  return false

inductive Found where
  | file (number : Option Nat) (content : Bytes)
  | directory (location : Location)
  deriving DecidableEq, Repr

def look (path : Octets) : Tool (Except OsError Found) := do
  let bench ← get
  match Bench.streamOf? (Octets.toText path) with
  | some descriptor =>
      match bench.channel? descriptor with
      | some (_, .file number _ _) => return .ok (.file (some number) (bench.contentOf number))
      | some (_, .source content) => return .ok (.file none content)
      | some _ => return .ok (.file none [])
      | none => return .error .noEntry
  | none =>
      match bench.disk.look (Tool.path path) with
      | .error error => return .error error
      | .ok (_, .file number content) => return .ok (.file (some number) content)
      | .ok (_, .device) => return .ok (.file none [])
      | .ok (location, .directory) => return .ok (.directory location)

def locationOf (disk : Disk) (path : Octets) : Option Location :=
  (disk.locate (Tool.path path)).toOption

def sameFile (disk : Disk) (source target : Octets) (first second : Found) : Bool :=
  match first, second with
  | .file (some number) _, .file (some other) _ => number = other
  | .directory location, .directory other => location = other
  | .file none _, .file none _ => locationOf disk source = locationOf disk target
  | _, _ => false

def trimSlashes (path : Octets) : Octets :=
  match (path.reverse.dropWhile (· = '/')).reverse with
  | [] => path.take 1
  | trimmed => trimmed

def lastName (path : Octets) : Octets :=
  ((trimSlashes path).reverse.takeWhile (· ≠ '/')).reverse

def concat (directory name : Octets) : Octets :=
  let trimmed := trimSlashes directory
  if trimmed.getLast? = some '/' then trimmed ++ name else trimmed ++ '/' :: name

def numberedName (path : Octets) (number : Nat) : Octets :=
  path ++ ".~".toList ++ Nat.toDigits 10 number ++ ['~']

def lastNumber (disk : Disk) (path : Octets) : Nat :=
  (List.range 64).foldl (fun highest index =>
    if disk.contains (Tool.path (numberedName path (index + 1))) then index + 1 else highest) 0

def backupName (disk : Disk) (request : Request) (kind : Backup) (path : Octets) : Octets :=
  let last := lastNumber disk path
  match kind with
  | .simple => path ++ request.suffix
  | .numbered => numberedName path (last + 1)
  | .existing => if last = 0 then path ++ request.suffix else numberedName path (last + 1)

def announce (request : Request) (source target : Octets) (backup : Option Octets) : Tool Unit := do
  if request.verbose then
    let kept := match backup with
      | some name => " (backup: " ++ Quoted.always name ++ ")"
      | none => ""
    Tool.writeText 1 (Quoted.always source ++ " -> " ++ Quoted.always target ++ kept ++ "\n")

def explain (request : Request) (isKnown : Bool) (content : Bytes) : Tool Unit := do
  if request.explains then
    let (offload, reflink, sparse) :=
      if !isKnown then ("unknown", "unknown", "unknown")
      else if request.sparse = "always" then ("avoided", "unsupported", "zeros")
      else if request.sparse = "never" ∨ request.reflink = "never" then ("avoided", "no", "no")
      else (if content.isEmpty then "unknown" else "yes", "unsupported", "no")
    Tool.writeText 1 ("copy offload: " ++ offload ++ ", reflink: " ++ reflink ++
      ", sparse detection: " ++ sparse ++ "\n")

def skip (request : Request) (target : Octets) : Tool Unit := do
  if request.explains then Tool.writeText 1 ("skipped " ++ Quoted.always target ++ "\n")

/-- What copying has come to: the first directory that was made for the present source, the sources
that have been copied with their targets, and whether a directory was to be copied into itself. -/
structure Progress where
  made : Option Location
  directories : List (Location × Octets)
  files : List (Option Nat × Octets)
  targets : List Octets
  intoItself : Bool

abbrev Copying := StateT Progress Tool

def writeTo (target : Octets) (content : Bytes) : Tool (Option OsError) := do
  match Bench.streamOf? (Octets.toText target) with
  | some descriptor =>
      modify fun bench => bench.emit descriptor content
      return none
  | none =>
      let disk := (← get).disk
      match disk.forWriting (Tool.path target) with
      | .error .isADirectory => return some .notADirectory
      | .error error => return some error
      | .ok (.existing _ number _) =>
          modify fun bench => { bench with disk := disk.refill number content }
          return none
      | .ok (.created location) =>
          modify fun bench => { bench with disk := disk.createAt location content }
          return none
      | .ok .device => return none

def linkTo (source target : Octets) : Tool (Option OsError) := do
  let disk := (← get).disk
  match disk.look (Tool.path source), disk.locate (Tool.path target) with
  | .ok (_, node), .ok location =>
      if Disk.endsInSlash (Tool.path target) then return some .noEntry
      else
        modify fun bench => { bench with disk := disk.place location node }
        return none
  | .error error, _ => return some error
  | _, .error error => return some error

def removeAt (path : Octets) : Tool Unit :=
  modify fun bench =>
    match locationOf bench.disk path with
    | some location => { bench with disk := bench.disk.discard location }
    | none => bench

def mayReplace (target : Octets) : Tool Bool := do
  Tool.writeText 2 ("cp: overwrite " ++ Quoted.always target ++ "? ")
  let answer := Octets.ofBytes (← Tool.takeLine)
  return answer.head? = some 'y' || answer.head? = some 'Y'

def place (request : Request) (source target : Octets) (isNew : Bool) (content : Bytes) :
    Tool Bool := do
  let refuse := fun (error : OsError) =>
    fail ("cannot create regular file " ++ Quoted.always target ++ ": " ++ error.reason)
  if request.reflink = "always" then
    let before ← get
    match ← writeTo target [] with
    | some error => refuse error
    | none =>
        if isNew then set before
        fail ("failed to clone " ++ Quoted.always target ++ " from " ++ Quoted.always source ++
          ": Operation not supported")
  else if request.links ∨ request.symbolic then
    let kind := if request.links then "hard" else "symbolic"
    let disk := (← get).disk
    if request.symbolic ∧ source.head? ≠ some '/' ∧
        (locationOf disk target).map List.dropLast ≠ locationOf disk ['.'] then
      return ← fail (Octets.toText target ++
        ": can make relative symbolic links only in current directory")
    if !isNew ∧ !request.force then
      fail ("cannot create " ++ kind ++ " link " ++ Quoted.always target ++ " to " ++
        Quoted.always source ++ ": File exists")
    else
      match ← linkTo source target with
      | none => return true
      | some error =>
          fail ("cannot create " ++ kind ++ " link " ++ Quoted.always target ++ " to " ++
            Quoted.always source ++ ": " ++ error.reason)
  else if request.emptied ∧ !isNew then return true
  else
    match ← writeTo target (if request.emptied then [] else content) with
    | none =>
        if !request.emptied then explain request true content
        return true
    | some error => do
        if !request.emptied then explain request false []
        refuse error

inductive Verdict where
  | done (success : Bool)
  | goOn (isNew : Bool) (backup : Option Octets)

def makeWay (request : Request) (isTop : Bool) (source target : Octets) (from' to' : Found) :
    Copying Verdict := do
  let disk := (← (get : Tool Bench)).disk
  let refuse := fun (text : String) => do
    let _ ← fail text
    return Verdict.done false
  let isDirectory := fun (found : Found) => match found with
    | .directory _ => true
    | _ => false
  let same := sameFile disk source target from' to'
  let sameName := lastName source = lastName target
  let fails := same && request.present ≠ .kept && (request.backup.isNone || sameName)
  let asks := !fails && !(same && request.links) && !request.updates && !isDirectory from' &&
    !isDirectory to' && request.present = .asked
  let kept ← if asks then do pure !(← mayReplace target) else pure false
  if same ∧ request.links then return .done true
  else if fails then
    refuse (Quoted.always source ++ " and " ++ Quoted.always target ++ " are the same file")
  else if !isDirectory from' ∧ (request.updates ∨ request.present = .kept) then
    skip request target
    return .done true
  else if kept then
    skip request target
    return .done false
  else if isDirectory from' ∧ !isDirectory to' then
    refuse ("cannot overwrite non-directory " ++ Quoted.always target ++ " with directory " ++
      Quoted.always source)
  else if !isDirectory from' ∧ isDirectory to' then
    refuse ("cannot overwrite directory " ++ Quoted.always target ++ " with non-directory")
  else if isTop ∧ !isDirectory from' ∧ request.backup ≠ some .numbered ∧
      (← (get : Copying Progress)).targets.contains target then
    refuse ("will not overwrite just-created " ++ Quoted.always target ++ " with " ++
      Quoted.always source)
  else if isDirectory from' then return .goOn false none
  else
    match request.backup with
    | some kind =>
        let name := backupName disk request kind target
        match locationOf disk target, locationOf disk name with
        | some old, some new =>
            modifyThe Bench fun bench => { bench with disk := bench.disk.moveAt old new }
            return .goOn true (some name)
        | _, _ => return .goOn true (some name)
    | none =>
        if request.removes then
          removeAt target
          if request.verbose then Tool.writeText 1 ("removed " ++ Quoted.always target ++ "\n")
          return .goOn true none
        else return .goOn false none

def entries (disk : Disk) (directory : Location) : List String :=
  let age := fun (name : String) =>
    (disk.nodes.filterMap fun entry =>
      match entry.2 with
      | .file number _ => if (directory ++ [name]).isPrefixOf entry.1 then some number else none
      | _ => none).foldl min disk.nextNumber
  (disk.names directory).mergeSort fun left right => decide (age left ≤ age right)

/-- What is wrong with copying a directory, if it has come up before. -/
def metBefore (top target : Octets) (location : Location) (isTop : Bool) :
    Copying (Option Bool) := do
  let progress ← get
  let disk := (← (get : Tool Bench)).disk
  if progress.made = some location then
    complain ("cannot copy a directory, " ++ Quoted.always top ++ ", into itself, " ++
      Quoted.always target)
    modify fun current => { current with intoItself := true }
    return some false
  else
    match if isTop then progress.directories.find? fun entry => entry.1 = location else none with
    | none => return none
    | some (_, earlier) =>
        if locationOf disk earlier = locationOf disk target then
          complain ("warning: source directory " ++ Quoted.always top ++
            " specified more than once")
          return some true
        else
          complain ("will not create hard link " ++ Quoted.always target ++ " to directory " ++
            Quoted.always earlier)
          return some false

def makeDirectory (request : Request) (source target : Octets) : Copying Bool := do
  let bench ← (get : Tool Bench)
  match bench.disk.makeDir (Tool.path target) with
  | .error error =>
      complain ("cannot create directory " ++ Quoted.always target ++ ": " ++ error.reason)
      return false
  | .ok disk =>
      set { bench with disk := disk }
      modify fun progress =>
        { progress with made := progress.made <|> locationOf disk target }
      announce request source target none
      return true

mutual

def copy (request : Request) (top topTarget : Octets) :
    (fuel : Nat) → (isTop : Bool) → (source target : Octets) → Copying Bool
  | 0, _, _, _ => return false
  | fuel + 1, isTop, source, target => do
      match ← look source with
      | .error error =>
          complain ("cannot stat " ++ Quoted.always source ++ ": " ++ error.reason)
          return false
      | .ok found =>
          match found with
          | .directory location =>
              if !request.recursive then
                complain ("-r not specified; omitting directory " ++ Quoted.always source)
                return false
              else copyTo request top topTarget fuel isTop source target (.directory location)
          | .file number content =>
              let progress ← get
              let key := (number, lastName source)
              if isTop ∧ request.backup.isNone ∧ progress.files.contains key then
                complain ("warning: source file " ++ Quoted.always source ++
                  " specified more than once")
                return true
              else
                if isTop then
                  modify fun current => { current with files := key :: current.files }
                copyTo request top topTarget fuel isTop source target (.file number content)

def copyTo (request : Request) (top topTarget : Octets) :
    (fuel : Nat) → (isTop : Bool) → (source target : Octets) → Found → Copying Bool
  | 0, _, _, _, _ => return false
  | fuel + 1, isTop, source, target, found => do
      let verdict ← match ← look target with
        | .ok present => makeWay request isTop source target found present
        | .error .noEntry => pure (.goOn true none)
        | .error error => do
            complain ("cannot stat " ++ Quoted.always target ++ ": " ++ error.reason)
            pure (.done false)
      match verdict with
      | .done success => return success
      | .goOn isNew backup =>
          match found with
          | .file _ content =>
              announce request source target backup
              let success ← place request source target isNew content
              if isTop ∧ success then
                modify fun progress => { progress with targets := target :: progress.targets }
              return success
          | .directory location =>
              match ← metBefore top topTarget location isTop with
              | some success => return success
              | none =>
                  if isTop then
                    modify fun progress =>
                      { progress with directories := (location, target) :: progress.directories }
                  let ready ← if isNew then makeDirectory request source target else pure true
                  if ready then
                    let disk := (← (get : Tool Bench)).disk
                    copyEntries request top topTarget fuel source target (entries disk location)
                  else return false

/-- Copies the entries of a directory; none come after one that leads into itself. -/
def copyEntries (request : Request) (top topTarget : Octets) :
    (fuel : Nat) → (source target : Octets) → List String → Copying Bool
  | 0, _, _, _ => return false
  | _ + 1, _, _, [] => return true
  | fuel + 1, source, target, name :: rest => do
      let entry := Octets.ofText name
      let success ← copy request top topTarget fuel false (concat source entry) (concat target entry)
      if (← get).intoItself then return false
      else return (← copyEntries request top topTarget fuel source target rest) && success

end

def copyTop (request : Request) (source target : Octets) : Copying Bool := do
  modify fun progress => { progress with made := none, intoItself := false }
  let disk := (← (get : Tool Bench)).disk
  copy request source target (4 * disk.nodes.length + 64) true source target

def makeParents (request : Request) (directory : Octets) :
    (before : Octets) → List String → Copying Bool
  | _, [] => return true
  | before, name :: rest => do
      let source := if before.isEmpty then Octets.ofText name else concat before (Octets.ofText name)
      let target := concat directory source
      let disk := (← (get : Tool Bench)).disk
      let ready ← if disk.isDir (Tool.path target) then pure true else do
        match disk.makeDir (Tool.path target) with
        | .ok after =>
            modifyThe Bench fun bench => { bench with disk := after }
            if request.verbose then
              Tool.writeText 1
                (Octets.toText source ++ " -> " ++ Octets.toText target ++ "\n")
            pure true
        | .error error => do
            complain ("cannot make directory " ++ Quoted.always target ++ ": " ++ error.reason)
            pure false
      if ready then makeParents request directory source rest else return false

def copyInto (request : Request) (directory : Octets) : List Octets → Copying Bool
  | [] => return true
  | source :: rest => do
      let success ← if request.parents then do
          let segments := Disk.segments (Tool.path source)
          if ← makeParents request directory [] segments.dropLast then
            copyTop request source
              (concat directory (Octets.ofText ("/".intercalate segments)))
          else pure false
        else
          let name := lastName source
          copyTop request source (concat directory (if name = ['.', '.'] then ['.'] else name))
      return (← copyInto request directory rest) && success

/-- A file that is to be forced onto itself is copied to the name it would be kept under. -/
def copyPlain (request : Request) (source target : Octets) : Copying Bool := do
  let disk := (← (get : Tool Bench)).disk
  match request.backup with
  | some kind =>
      if request.force ∧ source = target ∧ disk.isFile (Tool.path target) then
        copyTop { request with backup := none } source (backupName disk request kind target)
      else copyTop request source target
  | none => copyTop request source target

def begin' : Progress :=
  ⟨none, [], [], [], false⟩

def conclude (copying : Copying Bool) : Tool Nat := do
  let (success, _) ← copying.run begin'
  return if success then 0 else 1

def notDirectory? (path : Octets) : Tool (Option OsError) := do
  match ← look path with
  | .ok (.directory _) => return none
  | .ok (.file _ _) => return some .notADirectory
  | .error error => return some error

def execute (request : Request) (operands : List Octets) : Tool Nat := do
  let least := if request.directory.isSome then 1 else 2
  match operands with
  | [] => Tool.misuse "cp" "missing file operand"
  | first :: rest =>
      if operands.length < least then
        Tool.misuse "cp" ("missing destination file operand after " ++ Quoted.always first)
      else if request.plainTarget then
        match request.directory, rest with
        | some _, _ =>
            complain "cannot combine --target-directory (-t) and --no-target-directory (-T)"
            return 1
        | none, _ :: extra :: _ => Tool.misuse "cp" ("extra operand " ++ Quoted.always extra)
        | none, _ => conclude (copyPlain request first (operands.getLast?.getD []))
      else
        match request.directory with
        | some directory =>
            match ← notDirectory? directory with
            | none => conclude (copyInto request directory operands)
            | some error =>
                complain ("target directory " ++ Quoted.always directory ++ ": " ++ error.reason)
                return 1
        | none =>
            let last := operands.getLast?.getD []
            match ← notDirectory? last with
            | none => conclude (copyInto request last operands.dropLast)
            | some error =>
                if 2 < operands.length then
                  complain ("target " ++ Quoted.always last ++ ": " ++ error.reason)
                  return 1
                else if request.parents then
                  Tool.misuse "cp" "with --parents, the destination must be a directory"
                else conclude (copyPlain request first last)

def warnings (sorted : Sorted) : Tool Unit := do
  if sorted.has "no-clobber" then
    complain ("warning: behavior of -n is non-portable and may change in future; " ++
      "use --update=none instead")

def run (words : List Octets) : Tool Nat := do
  let sorted := Sorted.sort forms true words
  warnings sorted
  match requestOf sorted with
  | .error misuse =>
      complain misuse.text
      if misuse.pointed then Tool.pointToHelp "cp" else return 1
  | .ok request => execute request sorted.operands

end Copy

end Shell

end Bootstrap
