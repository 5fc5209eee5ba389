import Bootstrap.Verification

/-!
Entries collected while a run goes on, and the line that each of them prints.
-/

namespace Bootstrap

namespace Entry

/-- A skipped fixpoint check prints nothing. -/
def line? : Entry → Option String
  | .attempt record => some record.line
  | .buildFailed stage diagnostic => some (stage.name ++ " build failed: " ++ diagnostic)
  | .fixpoint .skipped => none
  | .fixpoint (.converged stage next size digest) =>
      some ("fixpoint: " ++ stage.name ++ " == " ++ next.name ++ " (" ++ toString size ++
        " bytes, " ++ Artifact.digestText digest ++ ")")
  | .info message => some message

def attempt? : Entry → Option Attempt
  | .attempt record => some record
  | _ => none

def buildFailure? : Entry → Option (Stage × String)
  | .buildFailed stage diagnostic => some (stage, diagnostic)
  | _ => none

end Entry

structure Bulletin where
  entries : List Entry
  deriving DecidableEq, Repr

namespace Bulletin

def empty : Bulletin :=
  ⟨[]⟩

def push (bulletin : Bulletin) (entry : Entry) : Bulletin :=
  ⟨bulletin.entries ++ [entry]⟩

def drain (bulletin : Bulletin) : List Entry × Bulletin :=
  (bulletin.entries, empty)

def isEmpty (bulletin : Bulletin) : Bool :=
  bulletin.entries.isEmpty

end Bulletin

end Bootstrap
