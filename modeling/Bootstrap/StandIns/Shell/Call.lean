import Bootstrap.StandIns.Shell.Builtins
import Bootstrap.StandIns.Shell.Expansion

/-!
Simple commands while their words are expanded, and what they call.
-/

namespace Bootstrap

namespace Shell

/-- The fields so far, the one that names what is called, and the words still to be expanded. In
front of the name stand only words that keep functions out of the way; they may ask for the standard
directories. -/
structure Call where
  fields : List Octets
  start : Nat
  standard : Bool
  rest : List (List Piece)

namespace Call

def isDirect (call : Call) : Bool :=
  call.start = 0

def words (call : Call) : List Octets :=
  call.fields.drop call.start

def callee (state : State) (call : Call) : Callee :=
  Callee.resolve state call.isDirect (call.words.head?.getD [])

def builtinName? : Callee → Option String
  | .builtin name => some name
  | _ => none

def isSpecial (state : State) (call : Call) : Bool :=
  call.isDirect && (builtinName? (call.callee state)).any fun name => Shell.isSpecial name.toList

section Expanding

variable (output : Command → Exec Octets) (fuel : Nat)

def fieldAt (index : Nat) (call : Call) : Exec (Option Octets × Call) := do
  match call.fields[index]? with
  | some field => return (some field, call)
  | none =>
      let (found, rest) ← Expansion.firstFields output fuel call.rest
      return (found.head?, { call with fields := call.fields ++ found, rest := rest })

def inner? : (steps index : Nat) → Call → Exec (Option Nat × Call)
  | 0, _, call => return (none, call)
  | steps + 1, index, call => do
      let (field, call) ← fieldAt output fuel index call
      match field with
      | none => return (none, call)
      | some ['-', '-'] =>
          let (next, call) ← fieldAt output fuel (index + 1) call
          return (next.map fun _ => index + 1, call)
      | some ('-' :: letter :: letters) =>
          if (letter :: letters).all (· = 'p') then
            inner? steps (index + 1) { call with standard := true }
          else return (none, call)
      | some _ => return (some index, call)

def unwrapped : (steps : Nat) → Call → Exec Call
  | 0, call => return call
  | steps + 1, call => do
      if builtinName? (call.callee (← get)) = some "command" then
        match ← inner? output fuel steps (call.start + 1) call with
        | (some start, call) => unwrapped steps { call with start := start }
        | (none, call) => return call
      else return call

def ofWords (words : List (List Piece)) : Exec Call := do
  let (found, rest) ← Expansion.firstFields output fuel words
  if found.isEmpty then return ⟨[], 0, false, []⟩
  else
    let call ← unwrapped output fuel (fuel + 1) ⟨found, 0, false, rest⟩
    let declares := (builtinName? (call.callee (← get))).any Builtins.declares
    let others ← if declares then Expansion.allDeclared output fuel call.rest
      else Expansion.allFields output fuel call.rest
    return { call with fields := call.fields ++ others, rest := [] }

end Expanding

end Call

end Shell

end Bootstrap
