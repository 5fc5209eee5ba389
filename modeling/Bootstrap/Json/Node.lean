import Bootstrap.Json.Number

/-!
JSON text read as far as it goes: a node keeps what stands before a break in the text, so that a
reader that walks it in order meets its first problem, in form or in meaning, where the text has it.
-/

namespace Bootstrap

namespace Json

inductive Ending where
  | closed
  | broken
  deriving DecidableEq, Repr

/-- A text that names a lone half of a surrogate pair has no characters to show. -/
inductive Node where
  | null
  | bool (value : Bool)
  | number (token : Number)
  | string (text : Option String)
  | array (items : List Node) (ending : Ending)
  | object (members : List (Option String × Node)) (ending : Ending)
  | broken

def isSpace (character : Char) : Bool :=
  character = ' ' || character = '\n' || character = '\t' || character = '\r'

def skipSpace (characters : List Char) : List Char :=
  characters.dropWhile isSpace

def isDigit (character : Char) : Bool :=
  '0' ≤ character && character ≤ '9'

def hexDigit? (character : Char) : Option Nat :=
  if '0' ≤ character ∧ character ≤ '9' then some (character.toNat - '0'.toNat)
  else if 'a' ≤ character ∧ character ≤ 'f' then some (character.toNat - 'a'.toNat + 10)
  else if 'A' ≤ character ∧ character ≤ 'F' then some (character.toNat - 'A'.toNat + 10)
  else none

/-- What stands between quotes: a character, or a 16-bit unit written with four digits. -/
inductive Piece where
  | char (value : Char)
  | unit (code : Nat)
  deriving DecidableEq, Repr

def simpleEscape? : Char → Option Char
  | '"' => some '"'
  | '\\' => some '\\'
  | '/' => some '/'
  | 'b' => some '\x08'
  | 'f' => some '\x0c'
  | 'n' => some '\n'
  | 'r' => some '\r'
  | 't' => some '\t'
  | _ => none

def stringPieces : List Char → Option (List Piece × List Char)
  | [] => none
  | '"' :: rest => some ([], rest)
  | '\\' :: 'u' :: a :: b :: c :: d :: rest =>
      match hexDigit? a, hexDigit? b, hexDigit? c, hexDigit? d with
      | some first, some second, some third, some fourth =>
          (stringPieces rest).map fun (pieces, after) =>
            (.unit (((first * 16 + second) * 16 + third) * 16 + fourth) :: pieces, after)
      | _, _, _, _ => none
  | '\\' :: escape :: rest =>
      match simpleEscape? escape with
      | some value => (stringPieces rest).map fun (pieces, after) => (.char value :: pieces, after)
      | none => none
  | character :: rest =>
      if character = '\\' ∨ character.toNat < 0x20 then none
      else (stringPieces rest).map fun (pieces, after) => (.char character :: pieces, after)

def isHighSurrogate (code : Nat) : Bool := 0xD800 ≤ code && code < 0xDC00

def isLowSurrogate (code : Nat) : Bool := 0xDC00 ≤ code && code < 0xE000

/-- A high and a low surrogate in a row make one character; alone neither makes one. -/
def joinPieces : List Piece → Option (List Char)
  | [] => some []
  | .char value :: rest => (joinPieces rest).map (value :: ·)
  | .unit code :: rest =>
      if isHighSurrogate code then
        match rest with
        | .unit low :: after =>
            if isLowSurrogate low then
              (joinPieces after).map
                (Char.ofNat (0x10000 + (code - 0xD800) * 0x400 + (low - 0xDC00)) :: ·)
            else none
        | _ => none
      else if isLowSurrogate code then none
      else (joinPieces rest).map (Char.ofNat code :: ·)

def readString (characters : List Char) : Option (Option String × List Char) :=
  (stringPieces characters).map fun (pieces, after) =>
    ((joinPieces pieces).map String.ofList, after)

def readExponent (characters : List Char) : Option (Option (Bool × List Char) × List Char) :=
  match characters with
  | [] => some (none, [])
  | mark :: rest =>
      if mark = 'e' ∨ mark = 'E' then
        let (downward, unsigned) :=
          match rest with
          | '-' :: after => (true, after)
          | '+' :: after => (false, after)
          | _ => (false, rest)
        let digits := unsigned.takeWhile isDigit
        if digits.isEmpty then none
        else some (some (downward, digits), unsigned.dropWhile isDigit)
      else some (none, characters)

def readFraction (characters : List Char) : Option (Option (List Char) × List Char) :=
  match characters with
  | '.' :: rest =>
      let digits := rest.takeWhile isDigit
      if digits.isEmpty then none else some (some digits, rest.dropWhile isDigit)
  | _ => some (none, characters)

/-- A number token: no digit stands before another one that starts with a zero. -/
def readNumber (negative : Bool) (characters : List Char) : Option (Number × List Char) := do
  let whole := characters.takeWhile isDigit
  if whole.isEmpty ∨ (whole.head? = some '0' ∧ 1 < whole.length) then none
  else
    let (fraction, afterFraction) ← readFraction (characters.dropWhile isDigit)
    let (exponent, rest) ← readExponent afterFraction
    some (⟨negative, whole, fraction, exponent⟩, rest)

def readWord (word : List Char) (node : Node) (characters : List Char) :
    Node × List Char :=
  match word.isPrefixOf? characters with
  | some rest => (node, rest)
  | none => (.broken, [])

def wholeNumber : Option (Number × List Char) → Node × List Char
  | some (token, rest) => (.number token, rest)
  | none => (.broken, [])

mutual

/-- Reads a value at the front of the text, without spaces before it. Where the text breaks,
nothing is left after the node. -/
def readValue : (fuel : Nat) → List Char → Node × List Char
  | 0, _ => (.broken, [])
  | _ + 1, [] => (.broken, [])
  | fuel + 1, first :: rest =>
      if first = '"' then
        match readString rest with
        | some (text, after) => (.string text, after)
        | none => (.broken, [])
      else if first = '[' then
        let (items, ending, after) := readItems fuel true (skipSpace rest)
        (.array items ending, after)
      else if first = '\x7b' then
        let (members, ending, after) := readMembers fuel true (skipSpace rest)
        (.object members ending, after)
      else if first = '-' then wholeNumber (readNumber true rest)
      else if isDigit first then wholeNumber (readNumber false (first :: rest))
      else if first = 'n' then readWord ['u', 'l', 'l'] .null rest
      else if first = 't' then readWord ['r', 'u', 'e'] (.bool true) rest
      else if first = 'f' then readWord ['a', 'l', 's', 'e'] (.bool false) rest
      else (.broken, [])

def readItems : (fuel : Nat) → (isFirst : Bool) → List Char →
    List Node × Ending × List Char
  | 0, _, _ => ([], .broken, [])
  | _ + 1, _, [] => ([], .broken, [])
  | fuel + 1, isFirst, first :: rest =>
      if first = ']' then ([], .closed, rest)
      else if isFirst then
        let (item, after) := readValue fuel (first :: rest)
        let (items, ending, final) := readItems fuel false (skipSpace after)
        (item :: items, ending, final)
      else if first = ',' then
        let next := skipSpace rest
        if next.head? = some ']' then ([], .broken, [])
        else
          let (item, after) := readValue fuel next
          let (items, ending, final) := readItems fuel false (skipSpace after)
          (item :: items, ending, final)
      else ([], .broken, [])

def readMembers : (fuel : Nat) → (isFirst : Bool) → List Char →
    List (Option String × Node) × Ending × List Char
  | 0, _, _ => ([], .broken, [])
  | _ + 1, _, [] => ([], .broken, [])
  | fuel + 1, isFirst, first :: rest =>
      if first = '\x7d' then ([], .closed, rest)
      else if isFirst then readMember fuel (first :: rest)
      else if first = ',' then
        let next := skipSpace rest
        if next.head? = some '"' then readMember fuel next else ([], .broken, [])
      else ([], .broken, [])

/-- Reads one member and those after it. A name without a colon has a broken value. -/
def readMember : (fuel : Nat) → List Char → List (Option String × Node) × Ending × List Char
  | 0, _ => ([], .broken, [])
  | _ + 1, [] => ([], .broken, [])
  | fuel + 1, first :: rest =>
      if first = '"' then
        match readString rest with
        | none => ([], .broken, [])
        | some (name, afterName) =>
            match skipSpace afterName with
            | ':' :: afterColon =>
                let (value, after) := readValue fuel (skipSpace afterColon)
                let (members, ending, final) := readMembers fuel false (skipSpace after)
                ((name, value) :: members, ending, final)
            | _ => ([(name, .broken)], .broken, [])
      else ([], .broken, [])

end

/-- Enough fuel for every text of a length: each call uses up a character or is one of three calls
that stand at the same character. -/
def enoughFuel (characters : List Char) : Nat :=
  4 * characters.length + 4

mutual

def Node.isWhole : Node → Bool
  | .null => true
  | .bool _ => true
  | .number _ => true
  | .string _ => true
  | .array items .closed => allWhole items
  | .object members .closed => allMembersWhole members
  | _ => false

def allWhole : List Node → Bool
  | [] => true
  | item :: items => item.isWhole && allWhole items

def allMembersWhole : List (Option String × Node) → Bool
  | [] => true
  | (_, value) :: members => value.isWhole && allMembersWhole members

end

def readText (text : String) : Node × Bool :=
  let characters := skipSpace text.toList
  let (node, rest) := readValue (enoughFuel characters) characters
  (node, (skipSpace rest).isEmpty)

end Json

end Bootstrap
