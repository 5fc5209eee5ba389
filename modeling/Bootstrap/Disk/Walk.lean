import Bootstrap.Files.Error
import Bootstrap.Table
import Bootstrap.Text.Utf8

/-!
A disk: directories, files and a null device by location, and how a path leads to a location.
-/

namespace Bootstrap

abbrev Location := List String

/-- A file keeps its number for life, wherever it moves. -/
inductive Node where
  | directory
  | file (number : Nat) (content : Bytes)
  | device
  deriving DecidableEq, Repr

namespace Node

def isDirectory : Node → Bool
  | .directory => true
  | _ => false

def isFile : Node → Bool
  | .file _ _ => true
  | _ => false

end Node

/-- A file that has been removed keeps its content for those who have it open. -/
structure Disk where
  nodes : Table Location Node
  unlinked : Table Nat Bytes
  here : Location
  nextNumber : Nat
  deriving DecidableEq, Repr

namespace Disk

/-- An empty working directory, and the null device where programs look for it. -/
def empty : Disk where
  nodes :=
    [([], .directory), (["dev"], .directory), (["dev", "null"], .device), (["work"], .directory)]
  unlinked := []
  here := ["work"]
  nextNumber := 0

def node? (disk : Disk) (location : Location) : Option Node :=
  disk.nodes.get? location

def place (disk : Disk) (location : Location) (node : Node) : Disk :=
  { disk with nodes := disk.nodes.insert location node }

def filesAt (isMeant : Location → Bool) (nodes : Table Location Node) : Table Nat Bytes :=
  nodes.filterMap fun entry =>
    match entry.2 with
    | .file number content => if isMeant entry.1 then some (number, content) else none
    | _ => none

def forget (disk : Disk) (isMeant : Location → Bool) : Disk :=
  { disk with
    nodes := disk.nodes.filter fun entry => !isMeant entry.1
    unlinked := filesAt isMeant disk.nodes ++ disk.unlinked }

def discard (disk : Disk) (location : Location) : Disk :=
  disk.forget fun other => other = location

def segments (path : Path) : List String :=
  (Text.split '/' path.text).filter fun segment => !segment.isEmpty

def follow (location : Location) (segment : String) : Location :=
  if segment = "." then location
  else if segment = ".." then location.dropLast
  else location ++ [segment]

/-- Only a directory can be walked through. -/
def walk (disk : Disk) (location : Location) : List String → Except OsError Location
  | [] => .ok location
  | segment :: rest =>
      match disk.node? location with
      | some .directory => walk disk (follow location segment) rest
      | some _ => .error .notADirectory
      | none => .error .noEntry

def locate (disk : Disk) (path : Path) : Except OsError Location :=
  if path.text.toList.contains '\x00' then .error .nulByte
  else if path.text.isEmpty then .error .noEntry
  else disk.walk (if path.isAbsolute then [] else disk.here) (segments path)

/-- A slash at the end asks for a directory. -/
def endsInSlash (path : Path) : Bool :=
  path.text.toList.getLast? = some '/'

def look (disk : Disk) (path : Path) : Except OsError (Location × Node) := do
  let location ← disk.locate path
  match disk.node? location with
  | none => .error .noEntry
  | some node =>
      if endsInSlash path ∧ !node.isDirectory then .error .notADirectory else .ok (location, node)

/-- The last segment of a path, unless it only refers to a directory. -/
def finalName? (path : Path) : Option String :=
  match (segments path).getLast? with
  | none => none
  | some segment => if segment = "." ∨ segment = ".." then none else some segment

end Disk

end Bootstrap
