import Bootstrap.Text.Numeral

/-!
Number tokens of JSON text, and the text of the value they stand for in an error message.
-/

namespace Bootstrap

namespace Json

structure Number where
  negative : Bool
  whole : List Char
  fraction : Option (List Char)
  exponent : Option (Bool × List Char)
  deriving DecidableEq, Repr

namespace Number

/-- Digits are taken into the significand until it would outgrow 64 bits. -/
def takeDigits (significand : Nat) : List Char → Nat × List Char
  | [] => (significand, [])
  | digit :: rest =>
      let grown := significand * 10 + (digit.toNat - '0'.toNat)
      if grown < Numeral.wordBound then takeDigits grown rest else (significand, digit :: rest)

def scaled (number : Number) : Nat × Int :=
  let (significand, overflow) := takeDigits 0 number.whole
  match number.fraction with
  | none => (significand, overflow.length)
  | some fraction =>
      let (full, rest) := takeDigits significand fraction
      (full, (overflow.length : Int) - ((fraction.length - rest.length : Nat) : Int))

def powerOfTen (exponent : Nat) : Float :=
  Float.ofScientific 1 false exponent

def scaleDown : (fuel : Nat) → Float → Nat → Float
  | 0, _, _ => 0.0
  | fuel + 1, value, exponent =>
      if exponent ≤ 308 then value / powerOfTen exponent
      else if value == 0.0 then value
      else scaleDown fuel (value / powerOfTen 308) (exponent - 308)

def magnitude? (significand : Nat) (exponent : Int) : Option Float :=
  let value := Float.ofNat significand
  if exponent < 0 then some (scaleDown 4 value exponent.natAbs)
  else if exponent ≤ 308 then
    let grown := value * powerOfTen exponent.toNat
    if grown.isInf then none else some grown
  else if value == 0.0 then some value
  else none

inductive Reading where
  | integer (value : Int)
  | floating (negative : Bool) (magnitude : Float)
  | outOfRange

def exponentLimit : Nat :=
  2147483648

def exponentValue (digits : List Char) : Nat :=
  digits.foldl (fun value digit => value * 10 + (digit.toNat - '0'.toNat)) 0

def reading (number : Number) : Reading :=
  let (significand, exponent) := number.scaled
  let floating (exponent : Int) : Reading :=
    match magnitude? significand exponent with
    | some magnitude => .floating number.negative magnitude
    | none => .outOfRange
  match number.exponent with
  | some (downward, digits) =>
      let shift := exponentValue digits
      if shift < exponentLimit then
        floating (if downward then exponent - shift else exponent + shift)
      else if significand ≠ 0 ∧ downward = false then .outOfRange
      else .floating number.negative 0.0
  | none =>
      if number.fraction.isSome ∨ exponent ≠ 0 then floating exponent
      else if number.negative = false then .integer significand
      else if significand = 0 ∨ Numeral.signedBound < significand then floating 0
      else .integer (-(significand : Int))

def hiddenBit : Nat :=
  4503599627370496

def decompose (value : Float) : Nat × Int :=
  let bits : Nat := value.toBits.toNat
  let field : Nat := bits / hiddenBit % 2048
  let fraction : Nat := bits % hiddenBit
  if field = 0 then (fraction, -1074) else (fraction + hiddenBit, (field : Int) - 1075)

/-- The numbers that round to mantissa times a power of two, as bounds in quarter units: the lower
neighbour of a power of two is nearer. -/
def lowerBound (mantissa : Nat) (exponent : Int) : Nat :=
  if mantissa = hiddenBit ∧ -1074 < exponent then 4 * mantissa - 1 else 4 * mantissa - 2

/-- The decimal digit strings with the given last place nearest to the value from below and from
above, kept when they lie between the bounds; the bounds count when the mantissa is even. -/
def candidates (mantissa : Nat) (exponent place : Int) : List Nat :=
  let upScale := if 0 ≤ exponent - 2 then Nat.pow 2 (exponent - 2).toNat else 1
  let downScale := if 0 ≤ exponent - 2 then 1 else Nat.pow 2 (2 - exponent).toNat
  let upPlace := if 0 ≤ place then Nat.pow 10 place.toNat else 1
  let downPlace := if 0 ≤ place then 1 else Nat.pow 10 (-place).toNat
  let unit := upPlace * downScale
  let low := lowerBound mantissa exponent * upScale * downPlace
  let middle := 4 * mantissa * upScale * downPlace
  let high := (4 * mantissa + 2) * upScale * downPlace
  let below := middle / unit
  let inside (candidate : Nat) : Bool :=
    let scaled := candidate * unit
    if mantissa % 2 = 0 then low ≤ scaled && scaled ≤ high else low < scaled && scaled < high
  let distance (candidate : Nat) : Nat := ((candidate * unit : Int) - middle).natAbs
  let both : List Nat := [below, below + 1].filter fun candidate => inside candidate && candidate ≠ 0
  match both with
  | [left, right] =>
      if distance left < distance right then [left]
      else if distance right < distance left then [right]
      else if left % 2 = 0 then [left] else [right]
  | other => other

def shortestFrom (mantissa : Nat) (exponent : Int) : (fuel : Nat) → (place : Int) → Nat × Int
  | 0, place => (0, place)
  | fuel + 1, place =>
      match candidates mantissa exponent place with
      | digits :: _ => (digits, place)
      | [] => shortestFrom mantissa exponent fuel (place - 1)

def stripZeros : (fuel : Nat) → Nat → Int → Nat × Int
  | 0, digits, place => (digits, place)
  | fuel + 1, digits, place =>
      if digits ≠ 0 ∧ digits % 10 = 0 then stripZeros fuel (digits / 10) (place + 1)
      else (digits, place)

def shortest (value : Float) : Nat × Int :=
  let (mantissa, exponent) := decompose value
  let (digits, place) := shortestFrom mantissa exponent 660 310
  stripZeros 20 digits place

/-- Positional between 0.00001 and 10000000000000000, with a point always; else with an exponent
that shows its sign. -/
def floatText (negative : Bool) (magnitude : Float) : String :=
  let sign := if negative then "-" else ""
  if magnitude == 0.0 then sign ++ "0.0"
  else
    let (digits, place) := shortest magnitude
    let text := Nat.toDigits 10 digits
    let point : Int := text.length + place
    let body : List Char :=
      if 0 ≤ place ∧ point ≤ 16 then text ++ List.replicate place.toNat '0' ++ ['.', '0']
      else if 0 < point ∧ point ≤ 16 then text.take point.toNat ++ '.' :: text.drop point.toNat
      else if -5 < point ∧ point ≤ 0 then
        ['0', '.'] ++ List.replicate (-point).toNat '0' ++ text
      else
        let shown := (if 0 < point then ['+'] else []) ++ (toString (point - 1)).toList
        match text with
        | [digit] => digit :: 'e' :: shown
        | digit :: rest => digit :: '.' :: (rest ++ 'e' :: shown)
        | [] => 'e' :: shown
    sign ++ String.ofList body

end Number

end Json

end Bootstrap
