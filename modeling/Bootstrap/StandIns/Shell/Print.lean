import Bootstrap.StandIns.Shell.Arithmetic
import Bootstrap.StandIns.Shell.Floating

/-!
The printing tools: echo with its escapes, and printf with a format.
-/

namespace Bootstrap

namespace Shell

namespace Print

def octalDigit? (character : Char) : Option Nat :=
  if '0' ≤ character ∧ character ≤ '7' then some (character.toNat - '0'.toNat) else none

def octal : (most value : Nat) → List Char → Nat × List Char
  | most + 1, value, character :: rest =>
      match octalDigit? character with
      | some digit => octal most (value * 8 + digit) rest
      | none => (value, character :: rest)
  | _, value, characters => (value, characters)

def byteChar (value : Nat) : Char :=
  Char.ofNat (value % 256)

def simpleEscape? : Char → Option Char
  | '\\' => some '\\'
  | 'a' => some '\x07'
  | 'b' => some '\x08'
  | 'e' => some '\x1b'
  | 'f' => some '\x0c'
  | 'n' => some '\n'
  | 'r' => some '\r'
  | 't' => some '\t'
  | 'v' => some '\x0b'
  | _ => none

/-- What a backslash in a format makes of what follows, and what is left: before anything unknown it
stands for itself. -/
def escape : List Char → Octets × List Char
  | [] => (['\\'], [])
  | character :: rest =>
      match simpleEscape? character with
      | some value => ([value], rest)
      | none =>
          if (octalDigit? character).isSome then
            let (value, after) := octal 3 0 (character :: rest)
            ([byteChar value], after)
          else (['\\'], character :: rest)

def unescapeFrom : (fuel : Nat) → List Char → Octets × Bool
  | 0, _ => ([], false)
  | _ + 1, [] => ([], false)
  | fuel + 1, '\\' :: rest =>
      if rest.head? = some 'c' then ([], true)
      else
        let (value, after) :=
          if rest.head? = some '0' then
            let (number, left) := octal 3 0 (rest.drop 1)
            ([byteChar number], left)
          else escape rest
        let (others, stops) := unescapeFrom fuel after
        (value ++ others, stops)
  | fuel + 1, character :: rest =>
      let (others, stops) := unescapeFrom fuel rest
      (character :: others, stops)

def unescape (text : Octets) : Octets × Bool :=
  unescapeFrom (text.length + 1) text

def joinWords (words : List Octets) : Octets :=
  [' '].intercalate words

/-- Its words with blanks between them; a first word -n leaves out the line end. -/
def echo (escapes : Bool) (words : List Octets) : Octets :=
  let quiet := words.head? = some ['-', 'n']
  let text := joinWords (if quiet then words.drop 1 else words)
  let (shown, stops) := if escapes then unescape text else (text, false)
  shown ++ if quiet ∨ stops then [] else ['\n']

structure Field where
  left : Bool
  plus : Bool
  space : Bool
  alternate : Bool
  zero : Bool
  width : Nat
  precision : Option Nat

def Field.plain : Field :=
  ⟨false, false, false, false, false, 0, none⟩

def Field.withFlag (field : Field) : Char → Option Field
  | '-' => some { field with left := true }
  | '+' => some { field with plus := true }
  | ' ' => some { field with space := true }
  | '#' => some { field with alternate := true }
  | '0' => some { field with zero := true }
  | _ => none

def flags : Field → List Char → Field × List Char
  | field, [] => (field, [])
  | field, character :: rest =>
      match field.withFlag character with
      | some next => flags next rest
      | none => (field, character :: rest)

def pad (field : Field) (text : Octets) : Octets :=
  let gap := List.replicate (field.width - text.length) ' '
  if field.left then text ++ gap else gap ++ text

def padZeros (field : Field) (sign digits : List Char) : Octets :=
  let zeros :=
    if field.zero ∧ !field.left then field.width - sign.length - digits.length else 0
  pad field (sign ++ List.replicate zeros '0' ++ digits)

def padNumber (field : Field) (sign : List Char) (value : Nat) (digits : List Char) : Octets :=
  match field.precision with
  | some count =>
      let shown := if value = 0 then [] else digits
      pad field (sign ++ Numeral.padStart count shown)
  | none => padZeros field sign digits

def nearest (least most value : Int) : Int :=
  if value < least then least else if most < value then most else value

def outOfRange : String := "Numerical result out of range"

def complaint (text : Octets) (trouble : String) : List Octets :=
  [text ++ (": " ++ trouble).toList]

def unread (text rest : Octets) : List Octets :=
  if rest.isEmpty then [] else complaint text "not completely converted"

def quotedValue? (text : Octets) : Option Nat :=
  match text with
  | '"' :: rest => some ((rest.head?.map Char.toNat).getD 0)
  | '\x27' :: rest => some ((rest.head?.map Char.toNat).getD 0)
  | _ => none

def argument (least most : Int) (text : Octets) : Int × List Octets :=
  match quotedValue? text with
  | some value => (Int.ofNat value, [])
  | none =>
      match Arithmetic.integer? text with
      | none => (0, if text.isEmpty then [] else complaint text "expected numeric value")
      | some (value, rest) =>
          if !rest.isEmpty then (nearest least most value, unread text rest)
          else if value < least ∨ most < value then
            (nearest least most value, complaint text outOfRange)
          else (value, [])

def signedArgument (text : Octets) : Int × List Octets :=
  argument (-Numeral.signedBound) (Numeral.signedBound - 1) text

def floatingArgument (text : Octets) : Floating × List Octets :=
  match quotedValue? text with
  | some value => (.ofQuotient false value 1, [])
  | none =>
      match Floating.read? text with
      | none =>
          (.finite false 0 0, if text.isEmpty then [] else complaint text "expected numeric value")
      | some (value, rest) =>
          let isWord := text.any fun character => ['n', 'N'].contains character
          let isZero := !text.any fun character => '1' ≤ character && character ≤ '9'
          let strange := (value.isInfinite && !isWord) || (value.isTiny && !isZero)
          (value, if rest.isEmpty ∧ strange then complaint text outOfRange else unread text rest)

/-- A negative number shown without a sign is a 64-bit word. -/
def unsigned (value : Int) : Nat :=
  (value % Numeral.wordBound).toNat

def signOf (field : Field) (negative : Bool) : List Char :=
  if negative then ['-'] else if field.plus then ['+'] else if field.space then [' '] else []

structure Converted where
  text : Octets
  complaints : List Octets
  stops : Bool

def convertSigned (field : Field) (text : Octets) : Converted :=
  let (value, complaints) := signedArgument text
  let digits := Nat.toDigits 10 value.natAbs
  ⟨padNumber field (signOf field (value < 0)) value.natAbs digits, complaints, false⟩

def convertUnsigned (field : Field) (base : Nat) (mark : List Char) (text : Octets) : Converted :=
  let (value, complaints) := argument (1 - Numeral.wordBound) (Numeral.wordBound - 1) text
  let number := unsigned value
  let sign := if field.alternate ∧ number ≠ 0 then mark else []
  ⟨padNumber field sign number (Nat.toDigits base number), complaints, false⟩

def convertFloating (field : Field) (conversion : Char) (text : Octets) : Converted :=
  let (value, complaints) := floatingArgument text
  let sign := signOf field value.isNegative
  let shown := value.shown conversion field.alternate field.precision
  let isFinite := value.isFinite
  let lead := if conversion = 'a' ∧ isFinite then shown.take 2 else []
  ⟨padZeros { field with zero := field.zero && isFinite } (sign ++ lead) (shown.drop lead.length),
    complaints, false⟩

def Converted.inCapitals (converted : Converted) : Converted :=
  { converted with text := converted.text.map Char.toUpper }

def convert (field : Field) (conversion : Char) (text : Octets) : Option Converted :=
  let cut := fun (octets : Octets) =>
    match field.precision with
    | some count => octets.take count
    | none => octets
  match conversion with
  | 's' => some ⟨pad field (cut text), [], false⟩
  | 'b' =>
      let (plain, stops) := unescape text
      some ⟨pad field (cut plain), [], stops⟩
  | 'c' => some ⟨pad field [text.head?.getD '\x00'], [], false⟩
  | 'd' => some (convertSigned field text)
  | 'i' => some (convertSigned field text)
  | 'u' => some (convertUnsigned field 10 [] text)
  | 'o' => some (convertUnsigned field 8 ['0'] text)
  | 'x' => some (convertUnsigned field 16 ['0', 'x'] text)
  | 'X' => some (convertUnsigned field 16 ['0', 'x'] text).inCapitals
  | 'f' => some (convertFloating field 'f' text)
  | 'F' => some (convertFloating field 'f' text).inCapitals
  | 'e' => some (convertFloating field 'e' text)
  | 'E' => some (convertFloating field 'e' text).inCapitals
  | 'g' => some (convertFloating field 'g' text)
  | 'G' => some (convertFloating field 'g' text).inCapitals
  | 'a' => some (convertFloating field 'a' text)
  | 'A' => some (convertFloating field 'a' text).inCapitals
  | _ => none

structure Printed where
  text : Octets
  complaints : List Octets
  status : Nat
  left : List Octets
  stops : Bool
  used : Bool

def Printed.refuse (printed : Printed) (complaint : Octets) : Printed :=
  { printed with complaints := printed.complaints ++ [complaint], status := 2, stops := true }

def Printed.add (printed : Printed) (converted : Converted) : Printed where
  text := printed.text ++ converted.text
  complaints := printed.complaints ++ converted.complaints
  status := if converted.complaints.isEmpty then printed.status else 1
  left := printed.left.drop 1
  stops := converted.stops
  used := true

def number (printed : Printed) (characters : List Char) : Int × List Char × Printed :=
  match characters with
  | '*' :: rest =>
      let (value, complaints) := signedArgument (printed.left.head?.getD [])
      (value, rest, printed.add ⟨[], complaints, false⟩)
  | _ =>
      let digits := characters.takeWhile Char.isDigit
      (Int.ofNat ((Numeral.natural? digits).getD 0), characters.drop digits.length, printed)

def field (printed : Printed) (characters : List Char) : Field × List Char × Printed :=
  let (flagged, rest) := flags .plain characters
  let (width, after, next) := number printed rest
  let sized := { flagged with width := width.natAbs, left := flagged.left || width < 0 }
  match after with
  | '.' :: digits =>
      let (precision, final, last) := number next digits
      ({ sized with precision := if precision < 0 then none else some precision.natAbs }, final, last)
  | _ => (sized, after, next)

def pass : (fuel : Nat) → List Char → Printed → Printed
  | 0, _, printed => printed
  | _ + 1, [], printed => printed
  | fuel + 1, '\\' :: rest, printed =>
      let (value, after) := escape rest
      pass fuel after { printed with text := printed.text ++ value }
  | fuel + 1, '%' :: '%' :: rest, printed =>
      pass fuel rest { printed with text := printed.text ++ ['%'] }
  | fuel + 1, '%' :: rest, printed =>
      let (found, after, next) := field printed rest
      match after with
      | [] => next.refuse "missing format character".toList
      | conversion :: final =>
          match convert found conversion (next.left.head?.getD []) with
          | none =>
              next.refuse ('%' :: rest.take (rest.length - final.length) ++
                ": invalid directive".toList)
          | some converted =>
              let last := next.add converted
              if last.stops then last else pass fuel final last
  | fuel + 1, character :: rest, printed =>
      pass fuel rest { printed with text := printed.text ++ [character] }

def passes : (fuel : Nat) → Octets → Printed → Printed
  | 0, _, printed => printed
  | fuel + 1, format, printed =>
      let after := pass (format.length + 1) format { printed with used := false }
      if after.stops ∨ after.left.isEmpty ∨ !after.used then after else passes fuel format after

def nothing (status : Nat) (complaints : List Octets) : Printed :=
  ⟨[], complaints, status, [], true, false⟩

def formatted : List Octets → Printed
  | [] => nothing 2 ["usage: printf format [arg ...]".toList]
  | format :: arguments =>
      passes (arguments.length + 1) format ⟨[], [], 0, arguments, false, false⟩

/-- What printf prints and complains about; before the format it knows no options. -/
def printf (words : List Octets) : Printed :=
  match words with
  | ['-', '-'] :: rest => formatted rest
  | ('-' :: letter :: _) :: _ => nothing 2 ["Illegal option -".toList ++ [letter]]
  | _ => formatted words

end Print

end Shell

end Bootstrap
