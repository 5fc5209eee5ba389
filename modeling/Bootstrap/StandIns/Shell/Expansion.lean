import Bootstrap.StandIns.Shell.Arithmetic
import Bootstrap.StandIns.Shell.Redirection

/-!
Expanding words: parameters, arithmetic, the output of scripts, and the fields that come of it.
-/

namespace Bootstrap

namespace Shell

/-- What a word becomes: one text, fields, or fields that its plain text is split into as well. -/
inductive Outcome where
  | whole
  | fields
  | splitText
  deriving DecidableEq, Repr

namespace Outcome

def within (outcome : Outcome) (quoted : Bool) : Outcome :=
  match outcome with
  | .whole => .whole
  | _ => if quoted then .fields else .splitText

end Outcome

namespace Home

/-- The user name behind a tilde is empty where a slash, an end or a colon follows. -/
def endsName (colons isLast : Bool) : List Char → Bool
  | [] => isLast
  | character :: _ => character = '/' || (colons && character = ':')

def texts (home : Octets) (colons isLast : Bool) : (atStart : Bool) → List Char → List Piece
  | _, [] => []
  | atStart, character :: rest =>
      if atStart ∧ character = '~' ∧ endsName colons isLast rest then
        .text home true :: texts home colons isLast false rest
      else .text [character] false :: texts home colons isLast (colons && character = ':') rest

def place (home : Octets) (colons : Bool) : (atStart : Bool) → List Piece → List Piece
  | _, [] => []
  | atStart, .text value false :: rest =>
      texts home colons rest.isEmpty atStart value ++ place home colons false rest
  | _, piece :: rest => piece :: place home colons false rest

end Home

def untilCut (value : List (Option Char)) : Octets :=
  (value.takeWhile Option.isSome).filterMap id

/-- Whether a quoted character is kept from its meaning in a pattern by a guard before it. -/
def isGuarded (character : Char) : Bool :=
  ['!', '*', '?', '[', '=', '~', ':', '/', '-', ']', '\\'].contains character ||
    ('\x81' ≤ character && character ≤ '\x88')

def guarded (guard : Char) (entry : Option Char) : List (Option Char) :=
  if entry.any isGuarded then [some guard, entry] else [entry]

/-- What a pattern is compared with in place of a value, and where that starts in it: the first text
alone if it holds guarded characters, behind the value and the pattern themselves; else all texts
with their guards. -/
def compared (quoted : Bool) (pattern : List Mark) (value : List (Option Char)) :
    List (Option Char) × Nat :=
  let first := untilCut value
  if !quoted then (value, 0)
  else if first.any isGuarded then
    let before := value.flatMap (guarded '\x81') ++ none ::
      (pattern.flatMap fun mark =>
        if mark.quoted then guarded '\\' (some mark.value) else [some mark.value]) ++ [none]
    (before ++ first.map some, before.length)
  else (value.flatMap (guarded '\x81'), 0)

/-- What is left of a value without the part at its head or tail that a pattern matches. No part
that is compared with the pattern goes beyond a cut; from the far end on, places in the value are
counted from its own end. -/
def trimmed (amendment : Amendment) (quoted : Bool) (marks : List Mark)
    (value : List (Option Char)) : List (Option Char) :=
  let pattern := Pattern.ofMarks marks
  let (other, start) := compared quoted marks value
  let near := List.range ((untilCut (other.drop start)).length + 1)
  let far := List.range (min value.length other.length + 1)
  let tailAt := fun (place : Nat) => Pattern.accepts pattern (untilCut (other.drop place))
  let headAt := fun (place : Nat) =>
    Pattern.accepts pattern (untilCut ((other.take place).drop start))
  let fromEnd := fun (fits : Nat → Bool) =>
    (far.find? fun steps => fits (other.length - steps)).map fun steps => value.length - steps
  let fromStart := fun (fits : Nat → Bool) => near.find? fun steps => fits (start + steps)
  match amendment with
  | .dropShortestTail => value.take ((fromEnd tailAt).getD value.length)
  | .dropLongestTail => value.take ((fromStart tailAt).getD value.length)
  | .dropShortestHead => value.drop ((fromStart headAt).getD 0)
  | .dropLongestHead => value.drop ((fromEnd headAt).getD 0)
  | _ => value

def betweenCuts : List (Option Char) → List Octets
  | [] => [[]]
  | none :: rest => [] :: betweenCuts rest
  | some character :: rest =>
      match betweenCuts rest with
      | [] => [[character]]
      | first :: others => (character :: first) :: others

namespace Expansion

def valueParts (outcome : Outcome) (quoted : Bool) (value : Octets) : List Part :=
  if quoted then [.fixed (Mark.all true value)]
  else if outcome = .whole then [.fixed (Mark.all false value)]
  else [.loose (value.map some)]

def keepsApart (outcome : Outcome) (quoted : Bool) (name : Octets) : Bool :=
  outcome ≠ .whole && (name = ['@'] || (name = ['*'] && !quoted))

def argumentParts (quoted : Bool) (arguments : List Octets) (value : List (Option Char)) :
    List Part :=
  if !quoted then [.loose value]
  else if arguments.isEmpty then []
  else [.arguments (betweenCuts value)]

def demanded (name : Octets) : Exec Octets := do
  let state ← get
  match state.parameter? name with
  | some value => return value
  | none => if state.has 'u' then Exec.raise (name ++ ": parameter not set".toList) else return []

def parameter (outcome : Outcome) (quoted : Bool) (name : Octets) : Exec (List Part) := do
  if keepsApart outcome quoted name then
    let arguments := (← get).arguments
    return argumentParts quoted arguments (Part.cutting arguments)
  else return valueParts outcome quoted (← demanded name)

def assignNamed (name value : Octets) : Exec Unit :=
  if isName name then Exec.assign name value
  else Exec.raise (name ++ ": bad variable name".toList)

def assignAll : List (Octets × Int64) → Exec Unit
  | [] => return ()
  | (name, value) :: rest => do
      assignNamed name (toString value.toInt).toList
      assignAll rest

def compute (text : Octets) : Exec Octets := do
  let state ← get
  match Arithmetic.evaluate (fun name => (state.valueOf? name).getD []) text with
  | .ok (value, assigned) =>
      assignAll assigned
      return (toString value.toInt).toList
  | .error .overflow => throw (.killed 8)
  | .error fault => Exec.raise (fault.message text)

def withHome (colons : Bool) (pieces : List Piece) : Exec (List Piece) := do
  match (← get).valueOf? "HOME".toList with
  | some home => return Home.place home colons true pieces
  | none => return pieces

section Expanding

variable (output : Command → Exec Octets)

mutual

def part : (fuel : Nat) → Outcome → Piece → Exec (List Part)
  | 0, _, _ => return []
  | fuel + 1, outcome, piece => do
      match piece with
      | .text value quoted =>
          return if !quoted && outcome = .splitText then [.loose (value.map some)]
            else [.fixed (Mark.all quoted value)]
      | .mark => return if outcome = .whole then [] else [.quote]
      | .parameter name quoted => parameter outcome quoted name
      | .length name quoted =>
          let state ← get
          let length ← if keepsApart outcome quoted name then
              pure (Part.cutting state.arguments).length
            else do pure (← demanded name).length
          return valueParts outcome quoted (State.decimal length)
      | .arithmetic expression quoted =>
          return valueParts outcome quoted (← compute (← whole fuel expression))
      | .output script quoted => return valueParts outcome quoted (← output script)
      | .meaningless => Exec.raiseText "Bad substitution"
      | .amended name amendment orEmpty word quoted =>
          amended fuel outcome name amendment orEmpty word quoted

def amended : (fuel : Nat) → Outcome → Octets → Amendment → (orEmpty : Bool) → List Piece →
    (quoted : Bool) → Exec (List Part)
  | 0, _, _, _, _, _, _ => return []
  | fuel + 1, outcome, name, amendment, orEmpty, word, quoted => do
      let value := ((← get).parameter? name).filter fun text => !(orEmpty && text.isEmpty)
      match amendment with
      | .whenUnset =>
          if value.isSome then parameter outcome quoted name
          else parts fuel (outcome.within quoted) (← withHome false word)
      | .whenSet =>
          if value.isSome then parts fuel (outcome.within quoted) (← withHome false word)
          else return []
      | .assignUnset =>
          if value.isNone then assignNamed name (← whole fuel (← withHome false word))
          parameter outcome quoted name
      | .failUnset =>
          if value.isSome then parameter outcome quoted name
          else if word.isEmpty then
            Exec.raise (name ++ ": parameter not set".toList ++
              if orEmpty then " or null".toList else [])
          else Exec.raise (name ++ [':', ' '] ++ (← whole fuel (← withHome false word)))
      | trim =>
          let arguments := (← get).arguments
          let text ← demanded name
          let pattern := Part.whole (← parts fuel .whole (← withHome false word))
          if keepsApart outcome quoted name then
            return argumentParts quoted arguments
              (trimmed trim quoted pattern (Part.cutting arguments))
          else return valueParts outcome quoted (untilCut (trimmed trim quoted pattern (text.map some)))

/-- The parts of a word; quotes around nothing but the arguments make no field of their own. -/
def parts : (fuel : Nat) → Outcome → List Piece → Exec (List Part)
  | 0, _, _ => return []
  | _ + 1, _, [] => return []
  | fuel + 1, outcome, .mark :: .parameter ['@'] true :: .mark :: rest => do
      let first ← parameter outcome true ['@']
      return first ++ (← parts fuel outcome rest)
  | fuel + 1, outcome, piece :: rest => do
      let first ← part fuel outcome piece
      return first ++ (← parts fuel outcome rest)

def whole : (fuel : Nat) → List Piece → Exec Octets
  | 0, _ => return []
  | fuel + 1, pieces => do return Mark.text (Part.whole (← parts fuel .whole pieces))

end

variable (fuel : Nat)

def text (pieces : List Piece) : Exec Octets := do
  whole output fuel (← withHome false pieces)

def value (pieces : List Piece) : Exec Octets := do
  whole output fuel (← withHome true pieces)

def fields (pieces : List Piece) : Exec (List Octets) := do
  let found ← parts output fuel .fields (← withHome false pieces)
  let state ← get
  let separated := Part.fields state.separators none found
  return if state.has 'f' then separated.map Mark.text
    else separated.flatMap (Mark.expand state.bench.disk)

def declared (pieces : List Piece) : Exec (List Octets) := do
  match assignment? ⟨pieces, false⟩ with
  | some (name, given) => return [name ++ '=' :: (← value output fuel given)]
  | none => fields output fuel pieces

def allFields : List (List Piece) → Exec (List Octets)
  | [] => return []
  | word :: rest => do
      let first ← fields output fuel word
      return first ++ (← allFields rest)

def allDeclared : List (List Piece) → Exec (List Octets)
  | [] => return []
  | word :: rest => do
      let first ← declared output fuel word
      return first ++ (← allDeclared rest)

def firstFields : List (List Piece) → Exec (List Octets × List (List Piece))
  | [] => return ([], [])
  | word :: rest => do
      let found ← fields output fuel word
      if found.isEmpty then firstFields rest else return (found, rest)

def matchesAny (subject : Octets) : List (List Piece) → Exec Bool
  | [] => return false
  | choice :: rest => do
      let found ← parts output fuel .whole (← withHome false choice)
      if Pattern.accepts (Pattern.ofMarks (Part.whole found)) subject then return true
      else matchesAny subject rest

def document (number : Nat) : Exec Octets := do
  whole output fuel (((← get).documents.get? number).getD [])

def target : Redirect → Exec Target
  | .file descriptor opening word => do return .file descriptor opening (← text output fuel word)
  | .document descriptor number => return .document descriptor number
  | .duplicate descriptor word => do
      match Target.descriptor? (← text output fuel word) with
      | some other => return .duplicate descriptor other
      | none => Exec.raiseSyntax "Bad fd number"

def targets : List Redirect → Exec (List Target)
  | [] => return []
  | redirect :: rest => do
      let first ← target output fuel redirect
      return first :: (← targets rest)

def prompt (script : (closed : Bool) → Reader Command) (given : Octets) : Exec Octets := do
  match (WordReader.body script false (2 * given.length + 2) false).run
      (Source.ofText given) with
  | .ok (pieces, _) => whole output fuel (joinTexts pieces)
  | .error _ => return given

end Expanding

end Expansion

end Shell

end Bootstrap
