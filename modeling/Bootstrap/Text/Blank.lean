/-!
Blank characters and the text operations that hang on them: trimming, lines, searching, replacing.
-/

namespace Bootstrap

namespace Text

/-- The characters with the Unicode property White_Space. -/
def isBlank (character : Char) : Bool :=
  let code := character.toNat
  (0x09 ≤ code && code ≤ 0x0D) || code = 0x20 || code = 0x85 || code = 0xA0 || code = 0x1680 ||
    (0x2000 ≤ code && code ≤ 0x200A) || code = 0x2028 || code = 0x2029 || code = 0x202F ||
    code = 0x205F || code = 0x3000

def trimStart (characters : List Char) : List Char :=
  characters.dropWhile isBlank

def trimEnd (characters : List Char) : List Char :=
  (characters.reverse.dropWhile isBlank).reverse

def trimChars (characters : List Char) : List Char :=
  trimEnd (trimStart characters)

def trim (text : String) : String :=
  String.ofList (trimChars text.toList)

/-- The pieces between separators; there is always at least one. -/
def splitChars (separator : Char) : List Char → List (List Char)
  | [] => [[]]
  | character :: rest =>
      if character = separator then [] :: splitChars separator rest
      else
        match splitChars separator rest with
        | [] => [[character]]
        | piece :: pieces => (character :: piece) :: pieces

def split (separator : Char) (text : String) : List String :=
  (splitChars separator text.toList).map String.ofList

def splitFirst? (separator : Char) : List Char → Option (List Char × List Char)
  | [] => none
  | character :: rest =>
      if character = separator then some ([], rest)
      else (splitFirst? separator rest).map fun (before, after) => (character :: before, after)

def splitLast? (separator : Char) : List Char → Option (List Char × List Char)
  | [] => none
  | character :: rest =>
      match splitLast? separator rest with
      | some (before, after) => some (character :: before, after)
      | none => if character = separator then some ([], rest) else none

def dropReturn (line : List Char) : List Char :=
  if line.getLast? = some '\r' then line.dropLast else line

/-- A line ends at a line feed, and a carriage return before it belongs to the line end. What
follows the last line feed is a line unless it is empty. -/
def lineChars (characters : List Char) : List (List Char) :=
  let pieces := splitChars '\n' characters
  let final := pieces.getLast?.getD []
  pieces.dropLast.map dropReturn ++ if final.isEmpty then [] else [final]

def lines (text : String) : List String :=
  (lineChars text.toList).map String.ofList

def occursIn (needle : List Char) : List Char → Bool
  | [] => needle.isEmpty
  | character :: rest => needle.isPrefixOf (character :: rest) || occursIn needle rest

def contains (text needle : String) : Bool :=
  occursIn needle.toList text.toList

/-- Replaces every occurrence of a nonempty pattern, from the left and without overlap; `skip`
characters at the front belong to the occurrence before. -/
def replaceFrom (pattern value : List Char) : (skip : Nat) → List Char → List Char
  | _, [] => []
  | skip + 1, _ :: rest => replaceFrom pattern value skip rest
  | 0, character :: rest =>
      if pattern.isPrefixOf (character :: rest) then
        value ++ replaceFrom pattern value (pattern.length - 1) rest
      else character :: replaceFrom pattern value 0 rest

def replace (text pattern value : String) : String :=
  String.ofList (replaceFrom pattern.toList value.toList 0 text.toList)

def dropPrefix? (text start : String) : Option String :=
  (start.toList.isPrefixOf? text.toList).map String.ofList

end Text

end Bootstrap
