import Bootstrap.Files.Error
import Bootstrap.Table
import Bootstrap.Text.Utf8

/-!
An in-memory file system: files by normal path; a directory exists as soon as a file lies below it.
-/

namespace Bootstrap

structure FileMap where
  files : Table String Bytes
  deriving DecidableEq, Repr

namespace FileMap

def slashed (characters : List Char) : List Char :=
  characters.map fun character => if character = '\\' then '/' else character

def dropSlashes (characters : List Char) : List Char :=
  (characters.reverse.dropWhile (· = '/')).reverse

/-- Forward slashes only and none at the end, but the root stays a slash. -/
def normalize (path : Path) : String :=
  let characters := slashed path.text.toList
  let kept := dropSlashes characters
  if kept.isEmpty ∧ characters.head? = some '/' then "/" else String.ofList kept

def below (normal : String) : String :=
  if normal.toList.getLast? = some '/' then normal else normal ++ "/"

def empty : FileMap :=
  ⟨[]⟩

def write (path : Path) (content : Bytes) (map : FileMap) : FileMap :=
  ⟨map.files.insert (normalize path) content⟩

def remove (path : Path) (map : FileMap) : FileMap :=
  ⟨map.files.erase (normalize path)⟩

def ofList (files : List (Path × Bytes)) : FileMap :=
  files.foldl (fun map file => map.write file.1 file.2) empty

def read (path : Path) (map : FileMap) : Except FileError Bytes :=
  match map.files.get? (normalize path) with
  | some content => .ok content
  | none => .error (.notFound (normalize path))

def isFile (path : Path) (map : FileMap) : Bool :=
  (map.files.get? (normalize path)).isSome

def isDir (path : Path) (map : FileMap) : Bool :=
  map.files.keys.any fun key => (below (normalize path)).toList.isPrefixOf key.toList

def contains (path : Path) (map : FileMap) : Bool :=
  map.isFile path || map.isDir path

/-- The first segment of a stored path after a directory's start, unless it is empty. -/
def childName? (start : String) (key : String) : Option String :=
  match start.toList.isPrefixOf? key.toList with
  | none => none
  | some rest =>
      let name := rest.takeWhile (· ≠ '/')
      if name.isEmpty then none else some (String.ofList name)

def insertName (name : String) : List String → List String
  | [] => [name]
  | other :: rest =>
      if other = name then other :: rest
      else if name < other then name :: other :: rest
      else other :: insertName name rest

def childNames (start : String) (map : FileMap) : List String :=
  (map.files.keys.filterMap (childName? start)).foldr insertName []

def list (path : Path) (map : FileMap) : Except FileError (List Path) :=
  let normal := normalize path
  let start := below normal
  match map.childNames start with
  | [] =>
      if (map.files.get? normal).isSome then .error (.notADirectory normal)
      else .error (.notFound normal)
  | names => .ok (names.map fun name => ⟨start ++ name⟩)

end FileMap

end Bootstrap
