import Bootstrap.StandIns.Shell.Declaration

/-!
Reading a line of the standard input into variables.
-/

namespace Bootstrap

namespace Shell

namespace Input

structure Line where
  parts : List Part
  length : Nat
  isEnded : Bool

def before (part : Octets) (length : Nat) (line : Line) : Line :=
  ⟨(if part.isEmpty then line.parts else .loose (part.map some) :: line.parts),
    line.length + length, line.isEnded⟩

/-- The first line of some bytes. A backslash keeps the next character from being a separator, and
joins lines; `raw` says that it does not. -/
def lineOf (raw : Bool) : (loose : Octets) → Octets → Line
  | loose, [] => before loose.reverse 0 ⟨[], 0, false⟩
  | loose, '\x00' :: rest => before [] 1 (lineOf raw loose rest)
  | loose, '\n' :: _ => before loose.reverse 0 ⟨[], 1, true⟩
  | loose, '\\' :: rest =>
      if raw then before [] 1 (lineOf raw ('\\' :: loose) rest)
      else
        match rest with
        | [] => before loose.reverse 0 ⟨[], 1, false⟩
        | '\n' :: after => before loose.reverse 2 (lineOf raw [] after)
        | character :: after =>
            let line := lineOf raw [] after
            before loose.reverse 2
              ⟨.fixed [⟨character, true⟩] :: line.parts, line.length, line.isEnded⟩
  | loose, character :: rest => before [] 1 (lineOf raw (character :: loose) rest)

def assignFields : List Octets → List Octets → Exec Unit
  | [], _ => return ()
  | name :: names, fields => do
      Declaration.give name (fields.head?.getD [])
      assignFields names (fields.drop 1)

def read (words : List Octets) : Exec Nat := do
  let (letters, names) ← ShortOption.ofWords ['r'] ['p'] words
  if names.isEmpty then Exec.raiseText "arg count"
  else
    let state ← get
    let bytes := (state.bench.pending 0).toOption.getD []
    let line := lineOf (ShortOption.has 'r' letters) [] (Octets.ofBytes bytes)
    set { state with bench := state.bench.skip 0 line.length }
    let fields := Part.fields state.separators (some names.length) line.parts
    assignFields names (fields.map Mark.text)
    return if line.isEnded then 0 else 1

end Input

end Shell

end Bootstrap
