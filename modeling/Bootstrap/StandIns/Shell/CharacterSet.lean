import Bootstrap.StandIns.Shell.CharacterClass
import Bootstrap.StandIns.Shell.Quoted

/-!
Sets of characters as they are written for an exchange: characters, ranges, classes and repetitions.
-/

namespace Bootstrap

namespace Shell

/-- A part of a set; a repetition without a count fills up what is missing. -/
inductive SetPart where
  | single (character : Char)
  | range (low high : Char)
  | named (name : String)
  | equivalent (character : Char)
  | repeated (character : Char) (count : Nat)
  | filling (character : Char)
  deriving DecidableEq, Repr

structure Letter where
  value : Char
  escaped : Bool
  deriving DecidableEq, Repr

namespace CharacterSet

def octal? (character : Char) : Option Nat :=
  if '0' ≤ character ∧ character ≤ '7' then some (character.toNat - '0'.toNat) else none

def letterOf? : Char → Option Char
  | '\\' => some '\\'
  | 'a' => some '\x07'
  | 'b' => some '\x08'
  | 'f' => some '\x0c'
  | 'n' => some '\n'
  | 'r' => some '\r'
  | 't' => some '\t'
  | 'v' => some '\x0b'
  | _ => none

/-- Up to three octal digits that fit a byte: their value, how many there are, and whether a third
one did not fit. -/
def octalCode (digits : List Char) : Nat × Nat × Bool :=
  match (digits.take 3).map octal? with
  | some first :: some second :: some third :: _ =>
      if first < 4 then (64 * first + 8 * second + third, 3, false)
      else (8 * first + second, 2, true)
  | some first :: some second :: _ => (8 * first + second, 2, false)
  | some first :: _ => (first, 1, false)
  | _ => (0, 0, false)

def lettersFrom : (fuel : Nat) → List Char → List Letter × List String
  | 0, _ => ([], [])
  | _ + 1, [] => ([], [])
  | _ + 1, ['\\'] =>
      ([⟨'\\', false⟩], ["warning: an unescaped backslash at end of string is not portable"])
  | fuel + 1, '\\' :: next :: rest =>
      match letterOf? next with
      | some value =>
          let (letters, warnings) := lettersFrom fuel rest
          (⟨value, true⟩ :: letters, warnings)
      | none =>
          let (code, used, ambiguous) := octalCode (next :: rest)
          if used = 0 then
            let (letters, warnings) := lettersFrom fuel rest
            (⟨next, true⟩ :: letters, warnings)
          else
            let digits := next :: rest
            let (letters, warnings) := lettersFrom fuel (digits.drop used)
            let warning := "warning: the ambiguous octal escape \\" ++ String.ofList (digits.take 3) ++
              " is being\n\tinterpreted as the 2-byte sequence \\0" ++
              String.ofList (digits.take 2) ++ ", " ++ String.ofList ((digits.drop 2).take 1)
            (⟨Char.ofNat code, true⟩ :: letters, if ambiguous then warning :: warnings else warnings)
  | fuel + 1, character :: rest =>
      let (letters, warnings) := lettersFrom fuel rest
      (⟨character, false⟩ :: letters, warnings)

def lettersOf (text : Octets) : List Letter × List String :=
  lettersFrom (text.length + 1) text

def isPlain (value : Char) (letter : Letter) : Bool :=
  letter.value = value && !letter.escaped

def closedBy (sign : Char) : List Letter → Option (List Letter × List Letter)
  | first :: second :: rest =>
      if isPlain sign first && isPlain ']' second then some ([], rest)
      else (closedBy sign (second :: rest)).map fun (inner, after) => (first :: inner, after)
  | _ => none

def textOf (letters : List Letter) : Octets :=
  letters.map Letter.value

def printable (character : Char) : List Char :=
  if character = '\\' then ['\\', '\\']
  else if CharacterClass.isPrintable character then [character]
  else Quoted.escaped character

def printableText (octets : Octets) : String :=
  String.ofList (octets.flatMap printable)

/-- A star with digits and a bracket behind it, which may be a repetition all the same. -/
def looksRepeated (letters : List Letter) : Bool :=
  match letters with
  | star :: rest =>
      isPlain '*' star &&
        match rest.dropWhile fun letter => letter.value.isDigit with
        | closing :: _ => isPlain ']' closing
        | [] => false
  | [] => false

/-- The count of a repetition; one that begins with a zero is octal. -/
def repeatCount (digits : Octets) : Option Nat :=
  match digits with
  | '0' :: _ =>
      digits.foldl (fun value digit => do
        let so ← value
        let next ← octal? digit
        return so * 8 + next) (some 0)
  | _ => Numeral.natural? digits

def repetition (letters : List Letter) : Except String (Option (SetPart × List Letter)) :=
  match letters with
  | character :: star :: rest =>
      let inner := rest.takeWhile fun letter => !letter.escaped && letter.value ≠ ']'
      match rest.drop inner.length with
      | closing :: after =>
          if isPlain '*' star && isPlain ']' closing then
            let digits := textOf inner
            if digits.isEmpty then .ok (some (.filling character.value, after))
            else
              match (repeatCount digits).filter fun count => decide (count < Numeral.wordBound) with
              | some 0 => .ok (some (.filling character.value, after))
              | some count => .ok (some (.repeated character.value count, after))
              | none =>
                  .error ("invalid repeat count " ++
                    Quoted.curly (Octets.ofText (printableText digits)) ++ " in [c*n] construct")
          else .ok none
      | [] => .ok none
  | _ => .ok none

def bracketed (letters : List Letter) : Except String (Option (SetPart × List Letter)) :=
  match letters with
  | sign :: rest =>
      let isClass := isPlain ':' sign
      match if isClass || isPlain '=' sign then closedBy sign.value rest else none with
      | none => repetition letters
      | some (inner, after) =>
          let text := textOf inner
          let shown := printableText text
          if inner.isEmpty then
            .error (if isClass then "missing character class name '[::]'"
              else "missing equivalence class character '[==]'")
          else if isClass then
            if (CharacterClass.named? (Octets.toText text)).isSome then
              .ok (some (.named (Octets.toText text), after))
            else if looksRepeated rest then repetition letters
            else .error ("invalid character class " ++ Quoted.curly (Octets.ofText shown))
          else
            match inner with
            | [single] => .ok (some (.equivalent single.value, after))
            | _ =>
                if looksRepeated rest then repetition letters
                else .error (shown ++ ": equivalence class operand must be a single character")
  | [] => .ok none

def partsFrom : (fuel : Nat) → List Letter → Except String (List SetPart)
  | 0, _ => .ok []
  | fuel + 1, letters =>
      match letters with
      | first :: second :: third :: rest => do
          let found ←
            if isPlain '[' first then bracketed (second :: third :: rest) else pure none
          match found with
          | some (part, after) => return part :: (← partsFrom fuel after)
          | none =>
              if isPlain '-' second then
                if third.value < first.value then
                  throw ("range-endpoints of '" ++ String.ofList (printable first.value) ++ "-" ++
                    String.ofList (printable third.value) ++
                    "' are in reverse collating sequence order")
                else return .range first.value third.value :: (← partsFrom fuel rest)
              else return .single first.value :: (← partsFrom fuel (second :: third :: rest))
      | few => .ok (few.map fun letter => .single letter.value)

def parts (letters : List Letter) : Except String (List SetPart) :=
  partsFrom (letters.length + 1) letters

def characterRange (low high : Char) : List Char :=
  (List.range (high.toNat + 1 - low.toNat)).map fun offset => Char.ofNat (low.toNat + offset)

def classMembers (name : String) : List Char :=
  ((CharacterClass.named? name).map CharacterClass.members).getD []

end CharacterSet

namespace SetPart

def size : SetPart → Nat
  | .single _ => 1
  | .range low high => high.toNat + 1 - low.toNat
  | .named name => (CharacterSet.classMembers name).length
  | .equivalent _ => 1
  | .repeated _ count => count
  | .filling _ => 0

def members (most : Nat) : SetPart → List Char
  | .single character => [character]
  | .range low high => CharacterSet.characterRange low high
  | .named name => CharacterSet.classMembers name
  | .equivalent character => [character]
  | .repeated character count => List.replicate (min most count) character
  | .filling _ => []

def isNamed : SetPart → Bool
  | .named _ => true
  | _ => false

def isFilling : SetPart → Bool
  | .filling _ => true
  | _ => false

def case? : SetPart → Option Bool
  | .named "upper" => some true
  | .named "lower" => some false
  | _ => none

end SetPart

end Shell

end Bootstrap
