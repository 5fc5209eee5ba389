import Bootstrap.Text.Numeral

/-!
JSON values and their two written forms: on one line, and indented by two blanks per level.
-/

namespace Bootstrap

inductive Json where
  | null
  | bool (value : Bool)
  | number (value : Int)
  | string (text : String)
  | array (items : List Json)
  | object (members : List (String × Json))
  deriving Repr

namespace Json

def escapeChar (character : Char) : List Char :=
  if character = '"' then ['\\', '"']
  else if character = '\\' then ['\\', '\\']
  else if character = '\n' then ['\\', 'n']
  else if character = '\r' then ['\\', 'r']
  else if character = '\t' then ['\\', 't']
  else if character = '\x08' then ['\\', 'b']
  else if character = '\x0c' then ['\\', 'f']
  else if character.toNat < 0x20 then
    ['\\', 'u'] ++ Numeral.padStart 4 (Nat.toDigits 16 character.toNat)
  else [character]

def quoted (text : String) : List Char :=
  '"' :: (text.toList.flatMap escapeChar ++ ['"'])

def numeral (value : Int) : List Char :=
  if value < 0 then '-' :: Nat.toDigits 10 value.natAbs else Nat.toDigits 10 value.natAbs

def boolChars (value : Bool) : List Char :=
  if value then ['t', 'r', 'u', 'e'] else ['f', 'a', 'l', 's', 'e']

mutual

def compactChars : Json → List Char
  | .null => ['n', 'u', 'l', 'l']
  | .bool value => boolChars value
  | .number value => numeral value
  | .string text => quoted text
  | .array [] => ['[', ']']
  | .array (item :: items) => '[' :: (compactChars item ++ compactItems items)
  | .object [] => ['\x7b', '\x7d']
  | .object ((name, value) :: members) =>
      '\x7b' :: (quoted name ++ ':' :: (compactChars value ++ compactMembers members))

def compactItems : List Json → List Char
  | [] => [']']
  | item :: items => ',' :: (compactChars item ++ compactItems items)

def compactMembers : List (String × Json) → List Char
  | [] => ['\x7d']
  | (name, value) :: members =>
      ',' :: (quoted name ++ ':' :: (compactChars value ++ compactMembers members))

end

def compact (value : Json) : String :=
  String.ofList (compactChars value)

def lineBreak (level : Nat) : List Char :=
  '\n' :: List.replicate (2 * level) ' '

mutual

def prettyChars (level : Nat) : Json → List Char
  | .null => ['n', 'u', 'l', 'l']
  | .bool value => boolChars value
  | .number value => numeral value
  | .string text => quoted text
  | .array [] => ['[', ']']
  | .array (item :: items) =>
      '[' :: (lineBreak (level + 1) ++ (prettyChars (level + 1) item ++ prettyItems level items))
  | .object [] => ['\x7b', '\x7d']
  | .object ((name, value) :: members) =>
      '\x7b' :: (lineBreak (level + 1) ++ (quoted name ++ ':' :: ' ' ::
        (prettyChars (level + 1) value ++ prettyMembers level members)))

def prettyItems (level : Nat) : List Json → List Char
  | [] => lineBreak level ++ [']']
  | item :: items =>
      ',' :: (lineBreak (level + 1) ++ (prettyChars (level + 1) item ++ prettyItems level items))

def prettyMembers (level : Nat) : List (String × Json) → List Char
  | [] => lineBreak level ++ ['\x7d']
  | (name, value) :: members =>
      ',' :: (lineBreak (level + 1) ++ (quoted name ++ ':' :: ' ' ::
        (prettyChars (level + 1) value ++ prettyMembers level members)))

end

def pretty (value : Json) : String :=
  String.ofList (prettyChars 0 value)

end Json

end Bootstrap
