import Bootstrap.StandIns.Shell.Token
import Bootstrap.Table

/-!
A script while it is read: the text that is left, its line, and the here-documents met so far.
-/

namespace Bootstrap

namespace Shell

structure Waiting where
  number : Nat
  delimiter : Octets
  literal : Bool
  stripsTabs : Bool
  deriving DecidableEq, Repr

/-- The text of an alias in front of what is left of the script; `left` is how long that is. Behind a
text that ends in a blank the next word may be an alias as well. -/
structure Substitute where
  name : Octets
  left : Nat
  goesOn : Bool
  deriving DecidableEq, Repr

/-- A token that is put back comes first again. Here-documents are numbered, so that commands can
name them before their bodies are read. `lastWord` is the word that was met last; `ending` is the here-document whose body
is read. -/
structure Source where
  rest : List Char
  line : Nat
  pushed : Option Token
  waiting : List Waiting
  documents : Table Nat (List Piece)
  next : Nat
  aliases : Table Octets Octets
  substitutes : List Substitute
  lastWord : List Piece
  ending : Option Waiting

def Source.ofText (text : List Char) : Source :=
  ⟨text, 1, none, [], [], 0, [], [], [], none⟩

abbrev Reader := StateT Source (Except SyntaxError)

namespace Reader

def fail (text : String) : Reader α :=
  fun source => .error ⟨source.line, source.rest.length, text⟩

/-- Stands for a script that is nested deeper than a reader follows. -/
def tooDeep : Reader α :=
  fail "too deep"

def unexpected (token : Token) : Reader α :=
  fail (token.name ++ " unexpected")

def expecting (token : Token) (wanted : String) : Reader α :=
  fail (token.name ++ " unexpected (expecting " ++ wanted ++ ")")

def unjoined : List Char → List Char × Nat
  | '\\' :: '\n' :: rest =>
      let (left, lines) := unjoined rest
      (left, lines + 1)
  | rest => (rest, 0)

def joinLines : Reader Unit :=
  modify fun source =>
    let (left, lines) := unjoined source.rest
    { source with rest := left, line := source.line + lines }

def takeRaw : Reader (Option Char) := do
  let source ← get
  match source.rest with
  | [] => return none
  | character :: rest =>
      set { source with
        rest := rest, line := if character = '\n' then source.line + 1 else source.line }
      return some character

def take : Reader (Option Char) := do
  joinLines
  takeRaw

def peek : Reader (Option Char) := do
  joinLines
  return (← get).rest.head?

def takes (character : Char) : Reader Bool := do
  if (← peek) = some character then
    let _ ← takeRaw
    return true
  else return false

def takeWhile (fits : Char → Bool) : (fuel : Nat) → Reader Octets
  | 0 => return []
  | fuel + 1 => do
      match ← peek with
      | none => return []
      | some character =>
          if fits character then
            let _ ← takeRaw
            return character :: (← takeWhile fits fuel)
          else return []

def takeAll (fits : Char → Bool) : Reader Octets := do
  takeWhile fits ((← get).rest.length + 1)

def takeUncounted : Reader (Option Char) := do
  let found ← take
  if found = some '\n' then modify fun source => { source with line := source.line - 1 }
  return found

def leaveSubstitutes : Reader Bool := do
  let source ← get
  let ahead := (source.rest.dropWhile fun character => character = ' ' || character = '\t').length
  let (finished, others) := source.substitutes.partition fun each => decide (ahead ≤ each.left)
  set { source with substitutes := others }
  return finished.any Substitute.goesOn

def substitute? (source : Source) (name : Octets) : Option Octets :=
  if source.substitutes.any fun each => each.name = name then none else source.aliases.get? name

def endsInBlank (text : Octets) : Bool :=
  text.getLast?.any fun last => last = ' ' || last = '\t'

def enterSubstitute (name text : Octets) : Reader Unit :=
  modify fun source =>
    { source with
      rest := text ++ source.rest
      substitutes := ⟨name, source.rest.length, endsInBlank text⟩ :: source.substitutes }

def skipComment : Reader Unit :=
  modify fun source => { source with rest := source.rest.dropWhile (· ≠ '\n') }

def pushBack (token : Token) : Reader Unit :=
  modify fun source => { source with pushed := some token }

end Reader

end Shell

end Bootstrap
