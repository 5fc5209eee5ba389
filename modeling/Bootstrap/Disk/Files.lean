import Bootstrap.Corpus
import Bootstrap.Disk.Access

/-!
A disk seen as a plain file system: refusals become file errors that name their path.
-/

namespace Bootstrap

namespace Disk

def named {α : Type} (path : Path) : Except OsError α → Except FileError α
  | .ok answer => .ok answer
  | .error error => .error (error.toFileError path)

def fetch (disk : Disk) (path : Path) : Except FileError Bytes :=
  named path (disk.read path)

def store (disk : Disk) (path : Path) (content : Bytes) : Except FileError Disk :=
  named path (disk.write path content)

def entries (disk : Disk) (path : Path) : Except FileError (List Path) :=
  if disk.isFile path then .error (.notADirectory path.text) else named path (disk.list path)

def access {World : Type} (diskOf : World → Disk) : Files World where
  read := fun path => Act.query fun world => (diskOf world).fetch path
  isFile := fun path => Act.query fun world => (diskOf world).isFile path
  list := fun path => Act.query fun world => (diskOf world).entries path

end Disk

end Bootstrap
