import Bootstrap.StandIns.Shell.Source

/-!
Reading words with their quotes and expansions, and the bodies of here-documents.
-/

namespace Bootstrap

namespace Shell

/-- Where a part of a word stands, which decides what ends it and what is special in it. Inside
quoted braces a quote only toggles whether a closing brace stands for itself. -/
inductive Place where
  | word
  | delimiter
  | quotes (inBraces ofDocument : Bool)
  | braces (ofDocument : Bool)
  | quotedBraces (inner inDocument : Bool)
  | arithmetic (depth : Nat) (inDocument : Bool)
  | document
  deriving DecidableEq, Repr

namespace Place

def isQuoted : Place → Bool
  | .word => false
  | .delimiter => false
  | .braces _ => false
  | _ => true

def isInDocument : Place → Bool
  | .document => true
  | .quotedBraces _ inDocument => inDocument
  | .arithmetic _ inDocument => inDocument
  | _ => false

def isOfDocument : Place → Bool
  | .quotes _ ofDocument => ofDocument
  | .braces ofDocument => ofDocument
  | place => place.isInDocument

def isInBraces : Place → Bool
  | .braces _ => true
  | .quotedBraces _ _ => true
  | .quotes inBraces _ => inBraces
  | _ => false

def keepsBackslash (place : Place) (character : Char) : Bool :=
  place.isQuoted && !(['\\', '\x60', '$'].contains character) &&
    (character ≠ '"' || (place.isInDocument && !place.isInBraces)) &&
    (character ≠ '\x7d' || !place.isInBraces)

/-- The place of the word behind a parameter's name. -/
def withinBraces (place : Place) : Place :=
  if place.isQuoted then .quotedBraces false place.isInDocument else .braces place.isOfDocument

def unended? : Place → Option String
  | .word => none
  | .delimiter => none
  | .document => none
  | .quotes _ ofDocument =>
      some (if ofDocument then "Missing '\x7d'" else "Unterminated quoted string")
  | .braces _ => some "Missing '\x7d'"
  | .quotedBraces _ inDocument =>
      some (if inDocument then "Missing '\x7d'" else "Unterminated quoted string")
  | .arithmetic _ _ => some "Missing '))'"

end Place

def endsWord (character : Char) : Bool :=
  [' ', '\t', '\n', ';', '&', '|', '<', '>', '(', ')'].contains character

def isNameStart (character : Char) : Bool :=
  character.isAlpha || character = '_'

def isNamePart (character : Char) : Bool :=
  character.isAlphanum || character = '_'

def isName (text : Octets) : Bool :=
  match text with
  | [] => false
  | first :: rest => isNameStart first && rest.all isNamePart

def isSpecialParameter (character : Char) : Bool :=
  ['!', '#', '$', '*', '-', '?', '@'].contains character || character.isDigit

def amendmentOf? : Char → Option Amendment
  | '-' => some .whenUnset
  | '=' => some .assignUnset
  | '?' => some .failUnset
  | '+' => some .whenSet
  | _ => none

def joinTexts : List Piece → List Piece
  | [] => []
  | .text value quoted :: rest =>
      match joinTexts rest with
      | .text next other :: others =>
          if quoted = other then .text (value ++ next) quoted :: others
          else .text value quoted :: .text next other :: others
      | others => .text value quoted :: others
  | piece :: rest => piece :: joinTexts rest

def isQuote : Piece → Bool
  | .mark => true
  | .text _ quoted => quoted
  | _ => false

namespace WordReader

open Reader

def afterDelimiter (literal : Bool) : (fuel : Nat) → (delimiter : Octets) → List Char →
    Option (List Char × Nat)
  | 0, _, _ => none
  | fuel + 1, delimiter, text =>
      match text with
      | '\\' :: '\n' :: rest =>
          if literal then none
          else (afterDelimiter literal fuel delimiter rest).map fun (left, lines) => (left, lines + 1)
      | other =>
          match delimiter, other with
          | [], [] => some ([], 0)
          | [], '\n' :: rest => some (rest, 1)
          | wanted :: delimiters, character :: rest =>
              if wanted = character then afterDelimiter literal fuel delimiters rest else none
          | _, _ => none

def endsHere : Reader Bool := do
  match (← get).ending with
  | none => return false
  | some waiting =>
      if !waiting.literal then joinLines
      if waiting.stripsTabs then
        modify fun source => { source with rest := source.rest.dropWhile (· = '\t') }
      let source ← get
      match afterDelimiter waiting.literal (source.rest.length + 1) waiting.delimiter source.rest with
      | some (rest, lines) =>
          set { source with rest := rest, line := source.line + lines }
          return true
      | none => return false

def singleQuoted (ofDocument : Bool) : (fuel : Nat) → Reader Octets
  | 0 => tooDeep
  | fuel + 1 => do
      match ← takeRaw with
      | none => fail (if ofDocument then "Missing '\x7d'" else "Unterminated quoted string")
      | some '\x27' => return []
      | some character =>
          if ofDocument ∧ character = '\n' then
            if ← endsHere then fail "Missing '\x7d'"
          return character :: (← singleQuoted ofDocument fuel)

def backQuoted (quoted : Bool) : (fuel : Nat) → Reader Octets
  | 0 => tooDeep
  | fuel + 1 => do
      match ← take with
      | none => fail "EOF in backquote substitution"
      | some '\x60' => return []
      | some '\\' =>
          match ← takeRaw with
          | none => fail "EOF in backquote substitution"
          | some character =>
              let rest ← backQuoted quoted fuel
              return if ['\\', '\x60', '$'].contains character ∨ (quoted ∧ character = '"') then
                character :: rest else '\\' :: character :: rest
      | some character => return character :: (← backQuoted quoted fuel)

section Reading

variable (script : (closed : Bool) → Reader Command)

def inner (text : Octets) : Reader Command := do
  let outer ← get
  match (script false).run { outer with
      rest := text, line := 1, pushed := none, waiting := [], substitutes := [], ending := none } with
  | .error error => throw { error with left := outer.rest.length }
  | .ok (command, after) =>
      set { outer with documents := after.documents, next := after.next }
      return command

def enclosed : Reader Command := do
  let outer ← get
  modify fun source => { source with pushed := none, waiting := [], ending := none }
  let command ← script true
  modify fun source => { source with waiting := outer.waiting, ending := outer.ending }
  return command

mutual

def pieces : (fuel : Nat) → Place → Reader (List Piece)
  | 0, _ => tooDeep
  | fuel + 1, place => do
      match ← peek with
      | none =>
          match place.unended? with
          | some text => fail text
          | none => return []
      | some character =>
          match place with
          | .word => if endsWord character then return [] else anyPiece fuel place character
          | .delimiter => if endsWord character then return [] else anyPiece fuel place character
          | .quotes _ _ =>
              if character = '"' then
                let _ ← takeRaw
                return []
              else anyPiece fuel place character
          | .braces _ =>
              if character = '\x7d' then
                let _ ← takeRaw
                return []
              else anyPiece fuel place character
          | .quotedBraces inner inDocument =>
              if character = '\x7d' ∧ !inner then
                let _ ← takeRaw
                return []
              else if character = '"' then
                let _ ← takeRaw
                let rest ← pieces fuel (.quotedBraces (!inner) inDocument)
                return if inDocument then rest else .mark :: rest
              else anyPiece fuel place character
          | .arithmetic depth inDocument =>
              if character = '(' then
                let _ ← takeRaw
                return .text ['('] true :: (← pieces fuel (.arithmetic (depth + 1) inDocument))
              else if character = ')' then
                let _ ← takeRaw
                if 0 < depth then
                  return .text [')'] true :: (← pieces fuel (.arithmetic (depth - 1) inDocument))
                else if ← takes ')' then return []
                else return .text [')'] true :: (← pieces fuel place)
              else anyPiece fuel place character
          | .document => return []

def anyPiece : (fuel : Nat) → Place → Char → Reader (List Piece)
  | 0, _, _ => tooDeep
  | fuel + 1, place, character => do
      let first ← piece fuel place character
      return first ++ (← pieces fuel place)

def piece : (fuel : Nat) → Place → Char → Reader (List Piece)
  | 0, _, _ => tooDeep
  | fuel + 1, place, character => do
      let _ ← takeRaw
      if character = '\\' then
        match ← takeRaw with
        | none => return [.text ['\\'] true]
        | some next =>
            return [.text (if place.keepsBackslash next then ['\\', next] else [next]) true]
      else if place = .delimiter ∧ (character = '$' ∨ character = '\x60') then
        return [.text [character] false]
      else if character = '$' then dollar fuel place
      else if character = '\x60' then
        let text ← backQuoted place.isQuoted ((← get).rest.length + 1)
        return [.output (← inner script text) place.isQuoted]
      else if character = '"' ∧ !place.isQuoted then
        return .mark :: (← pieces fuel (.quotes place.isInBraces place.isOfDocument)) ++ [.mark]
      else if character = '\x27' ∧ !place.isQuoted then
        let text ← singleQuoted place.isOfDocument ((← get).rest.length + 1)
        return [.mark, .text text true, .mark]
      else
        if character = '\n' ∧ place.isOfDocument then
          if ← endsHere then fail (place.unended?.getD "")
        return [.text [character] place.isQuoted]

/-- The expansion after a dollar sign; the sign alone stands for itself. -/
def dollar : (fuel : Nat) → Place → Reader (List Piece)
  | 0, _ => tooDeep
  | fuel + 1, place => do
      match ← peek with
      | some '(' =>
          let _ ← takeRaw
          if ← takes '(' then
            return [.arithmetic (← pieces fuel (.arithmetic 0 place.isInDocument)) place.isQuoted]
          else return [.output (← enclosed script) place.isQuoted]
      | some '\x7b' =>
          let _ ← takeRaw
          braced fuel place
      | some character =>
          if isNameStart character then
            return [.parameter (← takeAll isNamePart) place.isQuoted]
          else if isSpecialParameter character then
            let _ ← takeRaw
            return [.parameter [character] place.isQuoted]
          else return [.text ['$'] place.isQuoted]
      | none => return [.text ['$'] place.isQuoted]

/-- A parameter in braces. A number sign asks for a length, unless it is the parameter itself. -/
def braced : (fuel : Nat) → Place → Reader (List Piece)
  | 0, _ => tooDeep
  | fuel + 1, place => do
      let skip := fun (found : Piece) => do
        let _ ← pieces fuel place.withinBraces
        return [found]
      let length := fun (name : Octets) => do
        if (← peek) = some '\x7d' then skip (.length name place.isQuoted) else skip .meaningless
      match ← peek with
      | none => skip .meaningless
      | some '#' =>
          let _ ← takeRaw
          match ← peek with
          | none => amended fuel place ['#']
          | some next =>
              if isNameStart next then length (← takeAll isNamePart)
              else if next.isDigit then length (← takeAll Char.isDigit)
              else
                let before ← get
                let _ ← takeRaw
                if next ≠ '\x7d' ∧ (← peek) = some '\x7d' then
                  if isSpecialParameter next then length [next] else skip .meaningless
                else
                  set before
                  amended fuel place ['#']
      | some character =>
          if isNameStart character then amended fuel place (← takeAll isNamePart)
          else if character.isDigit then amended fuel place (← takeAll Char.isDigit)
          else if isSpecialParameter character then
            let _ ← takeRaw
            amended fuel place [character]
          else if character = '\x7d' then skip .meaningless
          else
            let _ ← takeUncounted
            skip .meaningless

def amended : (fuel : Nat) → Place → Octets → Reader (List Piece)
  | 0, _, _ => tooDeep
  | fuel + 1, place, name => do
      let quoted := place.isQuoted
      let finish := fun (amendment : Amendment) (orEmpty : Bool) (within : Place) => do
        return [.amended name amendment orEmpty (joinTexts (← pieces fuel within)) quoted]
      match ← takeUncounted with
      | some '\x7d' => return [.parameter name quoted]
      | some '%' =>
          if ← takes '%' then finish .dropLongestTail false (.braces place.isOfDocument)
          else finish .dropShortestTail false (.braces place.isOfDocument)
      | some '#' =>
          if ← takes '#' then finish .dropLongestHead false (.braces place.isOfDocument)
          else finish .dropShortestHead false (.braces place.isOfDocument)
      | some ':' =>
          match ← takeUncounted with
          | some '\x7d' =>
              let _ ← pieces fuel place.withinBraces
              return [.parameter name quoted]
          | other =>
              match other.bind amendmentOf? with
              | some amendment => finish amendment true place.withinBraces
              | none =>
                  let _ ← pieces fuel place.withinBraces
                  return [.meaningless]
      | other =>
          match other.bind amendmentOf? with
          | some amendment => finish amendment false place.withinBraces
          | none =>
              let _ ← pieces fuel place.withinBraces
              return [.meaningless]

end

/-- A word, which may be empty where none begins. -/
def word (place : Place) : Reader Word := do
  let found ← pieces script (8 * (← get).rest.length + 16) place
  return ⟨joinTexts found, found.any isQuote⟩

def body (literal : Bool) : (fuel : Nat) → (atStart : Bool) → Reader (List Piece)
  | 0, _ => tooDeep
  | fuel + 1, true => do
      if ← endsHere then return []
      else if (← get).rest.isEmpty then return []
      else body literal fuel false
  | fuel + 1, false => do
      match ← if literal then do pure (← get).rest.head? else peek with
      | none => return []
      | some character =>
          let first ← if literal ∨ character = '\n' then do
              let _ ← takeRaw
              pure [Piece.text [character] true]
            else piece script (8 * (← get).rest.length + 16) .document character
          return first ++ (← body literal fuel (decide (character = '\n')))

def documents : List Waiting → Reader Unit
  | [] => return ()
  | waiting :: rest => do
      modify fun source => { source with ending := some waiting }
      let found ← body script waiting.literal (2 * (← get).rest.length + 2) true
      modify fun source =>
        { source with
          documents := source.documents.insert waiting.number (joinTexts found), ending := none }
      documents rest

end Reading

end WordReader

end Shell

end Bootstrap
