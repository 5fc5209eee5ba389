import Bootstrap.StandIns.Shell.Octets

/-!
The named classes of single-byte characters.
-/

namespace Bootstrap

namespace Shell

namespace CharacterClass

def isBlank (character : Char) : Bool :=
  character = ' ' || character = '\t'

def isSpace (character : Char) : Bool :=
  character = ' ' || ('\t' ≤ character && character ≤ '\r')

def isGraphic (character : Char) : Bool :=
  '!' ≤ character && character ≤ '~'

def isPrintable (character : Char) : Bool :=
  ' ' ≤ character && character ≤ '~'

def isControl (character : Char) : Bool :=
  character < ' ' || character = '\x7f'

def isPunctuation (character : Char) : Bool :=
  isGraphic character && !character.isAlphanum

def isHexDigit (character : Char) : Bool :=
  character.isDigit || ('a' ≤ character && character ≤ 'f') || ('A' ≤ character && character ≤ 'F')

def named? (name : String) : Option (Char → Bool) :=
  match name with
  | "alnum" => some Char.isAlphanum
  | "alpha" => some Char.isAlpha
  | "blank" => some isBlank
  | "cntrl" => some isControl
  | "digit" => some Char.isDigit
  | "graph" => some isGraphic
  | "lower" => some Char.isLower
  | "print" => some isPrintable
  | "punct" => some isPunctuation
  | "space" => some isSpace
  | "upper" => some Char.isUpper
  | "xdigit" => some isHexDigit
  | _ => none

def octets : List Char :=
  (List.range 256).map Char.ofNat

def members (isMember : Char → Bool) : List Char :=
  octets.filter isMember

end CharacterClass

end Shell

end Bootstrap
