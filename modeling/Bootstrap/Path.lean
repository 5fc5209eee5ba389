import Bootstrap.Text.Blank

/-!
Paths as texts: joining, the parts between slashes, file names, stems and extensions.
-/

namespace Bootstrap

structure Path where
  text : String
  deriving DecidableEq, Repr

namespace Path

def isAbsolute (path : Path) : Bool :=
  path.text.toList.head? = some '/'

/-- An absolute second path stands alone; else exactly one slash goes between. -/
def join (base path : Path) : Path :=
  if path.isAbsolute then path
  else if base.text.isEmpty then path
  else if base.text.toList.getLast? = some '/' then ⟨base.text ++ path.text⟩
  else ⟨base.text ++ "/" ++ path.text⟩

/-- Drops, from a reversed path, slashes and segments that name the directory they stand in; a dot
or slash at the very front of the path stays. -/
def trimTail : List Char → List Char
  | [] => []
  | '/' :: rest => if rest.isEmpty then ['/'] else trimTail rest
  | '.' :: rest => if rest.head? = some '/' then trimTail rest else '.' :: rest
  | character :: rest => character :: rest

def body (path : Path) : List Char :=
  trimTail path.text.toList.reverse

/-- The last segment, unless the path ends in a root or in a directory reference. -/
def fileName? (path : Path) : Option String :=
  let name := (path.body.takeWhile (· ≠ '/')).reverse
  if name = [] ∨ name = ['.'] ∨ name = ['.', '.'] then none else some (String.ofList name)

/-- Stem and extension of a file name: it splits at its last dot, unless that dot is its first
character. -/
def splitName (name : String) : String × Option String :=
  match Text.splitLast? '.' name.toList with
  | none => (name, none)
  | some ([], _) => (name, none)
  | some (stem, extension) => (String.ofList stem, some (String.ofList extension))

def fileStem? (path : Path) : Option String :=
  path.fileName?.map fun name => (splitName name).1

def extension? (path : Path) : Option String :=
  path.fileName?.bind fun name => (splitName name).2

def parent? (path : Path) : Option Path :=
  let kept := path.body
  match kept with
  | [] => none
  | ['/'] => none
  | _ =>
      let before := kept.dropWhile (· ≠ '/')
      some ⟨String.ofList (trimTail before).reverse⟩

/-- Cuts the path after its stem and puts the extension there; an empty extension leaves no dot. -/
def setExtension (path : Path) (extension : String) : Path :=
  match path.fileStem? with
  | none => path
  | some stem =>
      let before := path.body.dropWhile (· ≠ '/')
      let kept := String.ofList before.reverse ++ stem
      if extension.isEmpty then ⟨kept⟩ else ⟨kept ++ "." ++ extension⟩

/-- The path with another extension. The old extension is first cut off the end of the text, so
a name of two dots and an extension is left as the reference to the parent directory. -/
def withExtension (path : Path) (extension : String) : Path :=
  let kept : Path :=
    match path.extension? with
    | none => path
    | some old => ⟨String.ofList ((path.text.toList.reverse.drop old.length).reverse)⟩
  kept.setExtension extension

end Path

end Bootstrap
