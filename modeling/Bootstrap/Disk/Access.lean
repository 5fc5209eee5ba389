import Bootstrap.Disk.Walk

/-!
Operations on a disk, each with the refusals of the operating system.
-/

namespace Bootstrap

namespace Disk

def read (disk : Disk) (path : Path) : Except OsError Bytes := do
  match (← disk.look path).2 with
  | .directory => .error .isADirectory
  | .file _ content => .ok content
  | .device => .ok []

inductive Opened where
  | existing (location : Location) (number : Nat) (content : Bytes)
  | created (location : Location)
  | device
  deriving DecidableEq, Repr

def forWriting (disk : Disk) (path : Path) : Except OsError Opened := do
  let location ← disk.locate path
  if endsInSlash path then .error .isADirectory
  else
    match disk.node? location with
    | some .directory => .error .isADirectory
    | some (.file number content) => .ok (.existing location number content)
    | some .device => .ok .device
    | none => .ok (.created location)

def createAt (disk : Disk) (location : Location) (content : Bytes) : Disk :=
  { disk with
    nodes := disk.nodes.insert location (.file disk.nextNumber content)
    nextNumber := disk.nextNumber + 1 }

def write (disk : Disk) (path : Path) (content : Bytes) : Except OsError Disk := do
  match ← disk.forWriting path with
  | .existing location number _ => .ok (disk.place location (.file number content))
  | .created location => .ok (disk.createAt location content)
  | .device => .ok disk

/-- Opens a file for appending; the device has no number. -/
def openForAppending (disk : Disk) (path : Path) : Except OsError (Option Nat × Disk) := do
  match ← disk.forWriting path with
  | .existing _ number _ => .ok (some number, disk)
  | .created location => .ok (some disk.nextNumber, disk.createAt location [])
  | .device => .ok (none, disk)

def amendNode (number : Nat) (change : Bytes → Bytes) : Node → Node
  | .file present content => .file present (if present = number then change content else content)
  | node => node

def amend (disk : Disk) (number : Nat) (change : Bytes → Bytes) : Disk :=
  { disk with
    nodes := disk.nodes.map fun entry => (entry.1, amendNode number change entry.2)
    unlinked := disk.unlinked.map fun entry =>
      if entry.1 = number then (entry.1, change entry.2) else entry }

def append (disk : Disk) (number : Nat) (content : Bytes) : Disk :=
  disk.amend number fun before => before ++ content

def refill (disk : Disk) (number : Nat) (content : Bytes) : Disk :=
  disk.amend number fun _ => content

def contentOf? (disk : Disk) (number : Nat) : Option Bytes :=
  let found := disk.nodes.findSome? fun entry =>
    match entry.2 with
    | .file present content => if present = number then some content else none
    | _ => none
  found <|> disk.unlinked.get? number

def numberOf (disk : Disk) (path : Path) : Except OsError (Option Nat) := do
  match (← disk.look path).2 with
  | .directory => .error .isADirectory
  | .file number _ => .ok (some number)
  | .device => .ok none

def remove (disk : Disk) (path : Path) : Except OsError Disk := do
  let location ← disk.locate path
  match disk.node? location with
  | none => .error .noEntry
  | some .directory => .error .isADirectory
  | some _ =>
      if endsInSlash path then .error .notADirectory else .ok (disk.discard location)

def makeDir (disk : Disk) (path : Path) : Except OsError Disk := do
  let location ← disk.locate path
  match disk.node? location with
  | some _ => .error .alreadyExists
  | none => .ok (disk.place location .directory)

def find? (disk : Disk) (path : Path) : Option Node :=
  match disk.look path with
  | .ok found => some found.2
  | .error _ => none

def contains (disk : Disk) (path : Path) : Bool :=
  (disk.find? path).isSome

def isFile (disk : Disk) (path : Path) : Bool :=
  (disk.find? path).any Node.isFile

def isDir (disk : Disk) (path : Path) : Bool :=
  (disk.find? path).any Node.isDirectory

/-- Accepts a refusal if the directory is there all the same. -/
def settle (disk : Disk) (path : Path) : Except OsError Disk → Except OsError Unit × Disk
  | .ok after => (.ok (), after)
  | .error error => if disk.isDir path then (.ok (), disk) else (.error error, disk)

/-- Makes a directory and those above it that are missing, as far up as the fuel reaches. Those
above stay where the last one is refused. -/
def makeDirsFrom : (fuel : Nat) → Path → Disk → Except OsError Unit × Disk
  | 0, _, disk => (.ok (), disk)
  | fuel + 1, path, disk =>
      if path.text.isEmpty then (.ok (), disk)
      else
        match disk.makeDir path with
        | .error .noEntry =>
            match path.parent? with
            | none => (.error .noEntry, disk)
            | some parent =>
                match makeDirsFrom fuel parent disk with
                | (.ok (), above) => above.settle path (above.makeDir path)
                | (.error error, above) => (.error error, above)
        | result => disk.settle path result

/-- Every step up shortens the path. -/
def makeDirs (disk : Disk) (path : Path) : Except OsError Unit × Disk :=
  makeDirsFrom (path.text.length + 1) path disk

def childName? (directory location : Location) : Option String :=
  match directory.isPrefixOf? location with
  | some [name] => some name
  | _ => none

def names (disk : Disk) (directory : Location) : List String :=
  disk.nodes.keys.filterMap (childName? directory)

def list (disk : Disk) (path : Path) : Except OsError (List Path) := do
  match ← disk.look path with
  | (location, .directory) => .ok ((disk.names location).map fun name => path.join ⟨name⟩)
  | _ => .error .notADirectory

def isBelow (directory location : Location) : Bool :=
  directory.isPrefixOf location && directory ≠ location

def isEmptyAt (disk : Disk) (directory : Location) : Bool :=
  !disk.nodes.keys.any (isBelow directory)

def removeDir (disk : Disk) (path : Path) : Except OsError Disk := do
  match ← disk.look path with
  | (location, .directory) =>
      if disk.isEmptyAt location then .ok (disk.discard location) else .error .notEmpty
  | _ => .error .notADirectory

def prune (disk : Disk) (location : Location) : Disk :=
  disk.forget fun other => location.isPrefixOf other

def moved (source target location : Location) : Location :=
  match source.isPrefixOf? location with
  | some rest => target ++ rest
  | none => location

/-- Moves a location with all below it; what was at the target is replaced. -/
def moveAt (disk : Disk) (source target : Location) : Disk :=
  let cleared := disk.prune target
  { disk with
    nodes := cleared.nodes.foldl
      (fun nodes entry => nodes.insert (moved source target entry.1) entry.2) [] }

/-- Adds a file, or a directory where there is no content, with the directories above it; what the
system would refuse is left out. -/
def add (disk : Disk) (path : Path) (content : Option Bytes) : Disk :=
  match content with
  | none =>
      match disk.makeDirs path with
      | (.ok (), made) => made
      | (.error _, _) => disk
  | some bytes =>
      match disk.makeDirs (path.parent?.getD ⟨""⟩) with
      | (.ok (), made) => (made.write path bytes).toOption.getD disk
      | (.error _, _) => disk

def ofList (entries : List (Path × Option Bytes)) : Disk :=
  entries.foldl (fun disk entry => disk.add entry.1 entry.2) empty

/-- The paths below the working directory with what is there; directories end in a slash. -/
def contents (disk : Disk) : List (String × Option Bytes) :=
  disk.nodes.filterMap fun entry =>
    match disk.here.isPrefixOf? entry.1, entry.2 with
    | some (name :: rest), .directory => some ("/".intercalate (name :: rest) ++ "/", none)
    | some (name :: rest), .file _ content => some ("/".intercalate (name :: rest), some content)
    | _, _ => none

end Disk

end Bootstrap
