import Bootstrap.StandIns.Shell.CharacterClass
import Bootstrap.Text.Numeral
import Bootstrap.Text.Printable

/-!
Names and words in the messages of the tools: as a shell would read them, or between curly quotes.
-/

namespace Bootstrap

namespace Shell

namespace Quoted

/-- A text cut into characters that can be shown and bytes that cannot. -/
inductive Glyph where
  | shown (character : Char)
  | raw (byte : Char)
  deriving DecidableEq, Repr

def rawGlyphs (character : Char) : List Glyph :=
  (Octets.ofText (String.ofList [character])).map .raw

def glyphsFrom (octets : Octets) : List (Nat × Utf8.Part) → List Glyph
  | [] => []
  | (_, .char character) :: rest =>
      (if Text.isPrintable character then [.shown character] else rawGlyphs character) ++
        glyphsFrom octets rest
  | (offset, .illFormed length) :: rest =>
      ((octets.drop offset).take length).map .raw ++ glyphsFrom octets rest
  | (offset, .cutOff) :: rest => (octets.drop offset).map .raw ++ glyphsFrom octets rest

def glyphs (octets : Octets) : List Glyph :=
  glyphsFrom octets (Utf8.parts (Octets.toBytes octets))

def letterEscapes : List (Char × Char) :=
  [('\x07', 'a'), ('\x08', 'b'), ('\x0c', 'f'), ('\n', 'n'), ('\r', 'r'), ('\t', 't'), ('\x0b', 'v')]

def escaped (byte : Char) : List Char :=
  match letterEscapes.find? fun entry => entry.1 = byte with
  | some (_, letter) => ['\\', letter]
  | none => '\\' :: Numeral.padStart 3 (Nat.toDigits 8 byte.toNat)

def isShown : Glyph → Bool
  | .shown _ => true
  | .raw _ => false

def isShellSign (character : Char) : Bool :=
  [' ', '!', '"', '$', '&', '(', ')', '*', ';', '<', '=', '>', '?', '[', '\\', '^', '\x60', '|',
    '\x27'].contains character

/-- Characters that a single quote may be shown beside within double quotes. -/
def isHarmless (character : Char) : Bool :=
  character.isAlphanum || ['%', '+', ',', '-', '.', '/', ':', ']', '_', ' ', '\x27'].contains
    character || '\x7f' < character

/-- A quoted text: bytes that cannot be shown stand in quotes of their own. -/
def spelled : (inEscape : Bool) → List Glyph → List Char
  | false, [] => ['\x27']
  | true, [] => ['\x27']
  | false, .shown character :: rest =>
      (if character = '\x27' then ['\x27', '\\', '\x27', '\x27'] else [character]) ++
        spelled false rest
  | true, .shown character :: rest =>
      (if character = '\x27' then ['\x27', '\\', '\x27', '\x27']
        else ['\x27', '\x27', character]) ++ spelled false rest
  | false, .raw byte :: rest => ['\x27', '$', '\x27'] ++ escaped byte ++ spelled true rest
  | true, .raw byte :: rest => escaped byte ++ spelled true rest

def startsOddly (octets : Octets) : Bool :=
  match octets with
  | ['\x7b'] => true
  | ['\x7d'] => true
  | first :: _ => first = '#' || first = '~'
  | [] => true

def always (octets : Octets) : String :=
  let all := glyphs octets
  let text := (Octets.toText octets).toList
  if octets.contains '\x27' ∧ all.all isShown ∧ text.all isHarmless then
    String.ofList ('"' :: text ++ ['"'])
  else String.ofList ('\x27' :: spelled false all)

def needsQuotes (octets : Octets) : Bool :=
  startsOddly octets || octets.any isShellSign || !(glyphs octets).all isShown

def asNeeded (octets : Octets) : String :=
  if needsQuotes octets then always octets else Octets.toText octets

def name (octets : Octets) : String :=
  if octets.contains ':' then always octets else asNeeded octets

def curlyGlyph : Glyph → List Char
  | .shown '\\' => ['\\', '\\']
  | .shown character => [character]
  | .raw byte => escaped byte

def curly (octets : Octets) : String :=
  String.ofList ('‘' :: (glyphs octets).flatMap curlyGlyph ++ ['’'])

end Quoted

end Shell

end Bootstrap
