import Bootstrap.Path

/-!
Why a file operation fails, and the wording.
-/

namespace Bootstrap

inductive FileError where
  | notFound (path : String)
  | notADirectory (path : String)
  | io (message : String)
  | custom (message : String)
  deriving DecidableEq, Repr

namespace FileError

def message : FileError → String
  | .notFound path => "Path not found: " ++ path
  | .notADirectory path => "Not a directory: " ++ path
  | .io message => "IO error: " ++ message
  | .custom message => message

def kind : FileError → String
  | .notFound _ => "NotFound"
  | .notADirectory _ => "NotADirectory"
  | .io _ => "Io"
  | .custom _ => "Custom"

end FileError

inductive OsError where
  | noEntry
  | permissionDenied
  | alreadyExists
  | notADirectory
  | isADirectory
  | notEmpty
  | badDescriptor
  | nulByte
  | nulArgument
  deriving DecidableEq, Repr

namespace OsError

def reason : OsError → String
  | .noEntry => "No such file or directory"
  | .permissionDenied => "Permission denied"
  | .alreadyExists => "File exists"
  | .notADirectory => "Not a directory"
  | .isADirectory => "Is a directory"
  | .notEmpty => "Directory not empty"
  | .badDescriptor => "Bad file descriptor"
  | .nulByte => "file name contained an unexpected NUL byte"
  | .nulArgument => "nul byte found in provided data"

def number? : OsError → Option Nat
  | .noEntry => some 2
  | .permissionDenied => some 13
  | .alreadyExists => some 17
  | .notADirectory => some 20
  | .isADirectory => some 21
  | .notEmpty => some 39
  | .badDescriptor => some 9
  | .nulByte => none
  | .nulArgument => none

def message (error : OsError) : String :=
  match error.number? with
  | some number => error.reason ++ " (os error " ++ toString number ++ ")"
  | none => error.reason

/-- A missing path keeps its name; other refusals keep the system's wording. -/
def toFileError (error : OsError) (path : Path) : FileError :=
  match error with
  | .noEntry => .notFound path.text
  | other => .io other.message

end OsError

end Bootstrap
