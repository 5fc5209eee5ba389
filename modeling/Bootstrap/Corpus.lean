import Bootstrap.Compiler
import Bootstrap.Files.Error
import Bootstrap.Result
import Bootstrap.Settings

/-!
The test corpus: one test case for each source file of a directory, with the input that stands
beside it.
-/

namespace Bootstrap

/-- The file system as the harness uses it: reading and looking, never writing. -/
structure Files (World : Type) where
  read : Path → Act World (Except FileError Bytes)
  isFile : Path → Act World Bool
  list : Path → Act World (Except FileError (List Path))

structure TestCase where
  name : String
  source : SourceUnit
  input : Option Bytes
  deriving DecidableEq, Repr

inductive CorpusError where
  | unreadable (path : Path) (error : FileError)
  deriving DecidableEq, Repr

def CorpusError.message : CorpusError → String
  | .unreadable path error => "cannot read test corpus '" ++ path.text ++ "': " ++ error.message

namespace Corpus

variable {World : Type}

def readInput (files : Files World) (path : Path) : Act World (Except CorpusError (Option Bytes)) := do
  if ← files.isFile path then
    match ← files.read path with
    | .ok content => return .ok (some content)
    | .error error => return .error (.unreadable path error)
  else return .ok none

/-- The input stands beside the source; an extension that would lead elsewhere is a crash, which
comes only once the source is read. -/
def readCase (files : Files World) (layout : CorpusLayout) (name : String) (path : Path) :
    Act World (Result CorpusError TestCase) := do
  match ← files.read path with
  | .error error => return .error (.unreadable path error)
  | .ok bytes =>
      if layout.inputExtension.toList.contains '/' then
        return .crash
      else
        match ← readInput files (path.withExtension layout.inputExtension) with
        | .error error => return .error error
        | .ok input => return .ok ⟨name, ⟨name, path, bytes⟩, input⟩

def testName? (layout : CorpusLayout) (path : Path) : Option String :=
  if path.extension? = some layout.sourceExtension then path.fileStem? else none

/-- The test cases among listed paths, in their order; stops at the first that cannot be read. -/
def readCases (files : Files World) (layout : CorpusLayout) :
    List Path → Act World (Result CorpusError (List TestCase))
  | [] => return .ok []
  | path :: paths => do
      let isFile ← files.isFile path
      match if isFile then testName? layout path else none with
      | none => readCases files layout paths
      | some name =>
          match ← readCase files layout name path with
          | .error error => return .error error
          | .crash => return .crash
          | .ok first => return (← readCases files layout paths).map (first :: ·)

def sortByName (cases : List TestCase) : List TestCase :=
  cases.mergeSort fun left right => decide (left.name ≤ right.name)

def discover (files : Files World) (layout : CorpusLayout) :
    Act World (Result CorpusError (List TestCase)) := do
  match ← files.list layout.dir with
  | .error error => return .error (.unreadable layout.dir error)
  | .ok paths => return (← readCases files layout paths).map sortByName

end Corpus

end Bootstrap
