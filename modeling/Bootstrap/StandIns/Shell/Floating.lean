import Bootstrap.StandIns.Shell.CharacterClass
import Bootstrap.Text.Numeral

/-!
Numbers with a binary point: reading them to the nearest of 53 bits, and their exact decimal and
hexadecimal digits, rounded to so many places.
-/

namespace Bootstrap

namespace Shell

/-- A finite number is its mantissa times two to the power of its exponent. -/
inductive Floating where
  | finite (negative : Bool) (mantissa : Nat) (exponent : Int)
  | infinite (negative : Bool)
  | undefined (negative : Bool)
  deriving DecidableEq, Repr

namespace Floating

def powerOf (base exponent : Nat) : Nat :=
  (List.replicate exponent base).foldl (· * ·) 1

/-- A quotient to the nearest integer, and to the even one of two that are equally near. -/
def nearest (numerator denominator : Nat) : Nat :=
  let floor := numerator / denominator
  let double := 2 * (numerator % denominator)
  if double < denominator then floor
  else if denominator < double then floor + 1
  else floor + floor % 2

def scaled (numerator denominator : Nat) (exponent : Int) : Nat × Nat :=
  match exponent with
  | .ofNat up => (numerator, denominator <<< up)
  | .negSucc down => (numerator <<< (down + 1), denominator)

def lowest : Int := -1074

def highest : Int := 971

def mantissaBound : Nat := 9007199254740992

def exponentOf (numerator denominator : Nat) : Int :=
  let guess : Int := Int.ofNat numerator.log2 - Int.ofNat denominator.log2 - 52
  let (top, bottom) := scaled numerator denominator guess
  max lowest (if top / bottom < mantissaBound / 2 then guess - 1 else guess)

def ofQuotient (negative : Bool) (numerator denominator : Nat) : Floating :=
  if numerator = 0 then .finite negative 0 0
  else
    let exponent := exponentOf numerator denominator
    let (top, bottom) := scaled numerator denominator exponent
    let mantissa := nearest top bottom
    let (mantissa, exponent) :=
      if mantissa = mantissaBound then (mantissa / 2, exponent + 1) else (mantissa, exponent)
    if highest < exponent then .infinite negative else .finite negative mantissa exponent

def isTiny : Floating → Bool
  | .finite _ mantissa _ => mantissa < mantissaBound / 2
  | _ => false

def isFinite : Floating → Bool
  | .finite _ _ _ => true
  | _ => false

def isInfinite : Floating → Bool
  | .infinite _ => true
  | _ => false

def isNegative : Floating → Bool
  | .finite negative _ _ => negative
  | .infinite negative => negative
  | .undefined negative => negative

def pointed (isDigit : Char → Bool) (text : List Char) : Option (List Char × List Char × List Char) :=
  let whole := text.takeWhile isDigit
  let (fraction, rest) :=
    match text.dropWhile isDigit with
    | '.' :: after => (after.takeWhile isDigit, after.dropWhile isDigit)
    | other => ([], other)
  if whole.isEmpty ∧ fraction.isEmpty then none
  else some (whole, fraction, rest)

def exponentFrom (letters : List Char) (text : List Char) : Int × List Char :=
  match text with
  | [] => (0, [])
  | letter :: rest =>
      let (negative, digits) :=
        match rest with
        | '-' :: digits => (true, digits)
        | '+' :: digits => (false, digits)
        | digits => (false, digits)
      if letters.contains letter then
        match Numeral.natural? (digits.takeWhile Char.isDigit) with
        | some value =>
            (if negative then -Int.ofNat value else Int.ofNat value, digits.dropWhile Char.isDigit)
        | none => (0, text)
      else (0, text)

def hexDigit (character : Char) : Nat :=
  if character.isDigit then character.toNat - '0'.toNat
  else character.toLower.toNat - 'a'.toNat + 10

def valueIn (base : Nat) (digits : List Char) : Nat :=
  digits.foldl (fun value digit => value * base + hexDigit digit) 0

/-- Exponents beyond this make no difference. -/
def bounded (exponent : Int) : Int :=
  max (-5000) (min 5000 exponent)

def decimal (negative : Bool) (text : List Char) : Option (Floating × List Char) :=
  (pointed Char.isDigit text).map fun (whole, fraction, rest) =>
    let (exponent, after) := exponentFrom ['e', 'E'] rest
    let digits := valueIn 10 (whole ++ fraction)
    let value :=
      match bounded (exponent - Int.ofNat fraction.length) with
      | .ofNat up => ofQuotient negative (digits * powerOf 10 up) 1
      | .negSucc down => ofQuotient negative digits (powerOf 10 (down + 1))
    (value, after)

def hexadecimal (negative : Bool) (text : List Char) : Option (Floating × List Char) :=
  (pointed CharacterClass.isHexDigit text).map fun (whole, fraction, rest) =>
    let (exponent, after) := exponentFrom ['p', 'P'] rest
    let digits := valueIn 16 (whole ++ fraction)
    let (top, bottom) := scaled digits 1 (-(bounded (exponent - 4 * Int.ofNat fraction.length)))
    (ofQuotient negative top bottom, after)

def afterWord? (word : String) (text : List Char) : Option (List Char) :=
  if (text.take word.length).map Char.toLower = word.toList then some (text.drop word.length)
  else none

def unsigned (negative : Bool) (text : List Char) : Option (Floating × List Char) :=
  match afterWord? "infinity" text <|> afterWord? "inf" text with
  | some rest => some (.infinite negative, rest)
  | none =>
      match afterWord? "nan" text with
      | some rest => some (.undefined negative, rest)
      | none =>
          let found := (afterWord? "0x" text).bind fun rest => hexadecimal negative rest
          found <|> decimal negative text

def read? (text : List Char) : Option (Floating × List Char) :=
  match text.dropWhile CharacterClass.isSpace with
  | '-' :: rest => unsigned true rest
  | '+' :: rest => unsigned false rest
  | rest => unsigned false rest

def inTens (mantissa : Nat) (exponent power : Int) : Nat :=
  let (top, bottom) := scaled mantissa 1 (-exponent)
  match power with
  | .ofNat up => nearest top (bottom * powerOf 10 up)
  | .negSucc down => nearest (top * powerOf 10 (down + 1)) bottom

def leadingPower (mantissa : Nat) (exponent : Int) : Int :=
  if mantissa = 0 then 0
  else
    let (top, bottom) := scaled mantissa 1 (-exponent)
    let whole := top / bottom
    if 0 < whole then Int.ofNat (Nat.toDigits 10 whole).length - 1
    else
      let places := (Nat.toDigits 10 (bottom / top)).length
      if bottom ≤ top * powerOf 10 (places - 1) then 1 - Int.ofNat places else -Int.ofNat places

def withPoint (alternate : Bool) (whole fraction : List Char) : List Char :=
  if fraction.isEmpty ∧ !alternate then whole else whole ++ '.' :: fraction

def fixed (alternate : Bool) (places mantissa : Nat) (exponent : Int) : List Char :=
  let digits := Numeral.padStart (places + 1)
    (Nat.toDigits 10 (inTens mantissa exponent (-Int.ofNat places)))
  withPoint alternate (digits.take (digits.length - places)) (digits.drop (digits.length - places))

def scientificDigits (places mantissa : Nat) (exponent : Int) : List Char × Int :=
  let power := leadingPower mantissa exponent
  let digits := Nat.toDigits 10 (inTens mantissa exponent (power - Int.ofNat places))
  if places + 1 < digits.length then (digits.take (places + 1), power + 1)
  else (Numeral.padStart (places + 1) digits, power)

def exponentText (power : Int) : List Char :=
  ['e', if power < 0 then '-' else '+'] ++ Numeral.padStart 2 (Nat.toDigits 10 power.natAbs)

def scientific (alternate : Bool) (places mantissa : Nat) (exponent : Int) : List Char :=
  let (digits, power) := scientificDigits places mantissa exponent
  withPoint alternate (digits.take 1) (digits.drop 1) ++ exponentText power

def withoutZeros (digits : List Char) : List Char :=
  (digits.reverse.dropWhile (· = '0')).reverse

def general (alternate : Bool) (precision mantissa : Nat) (exponent : Int) : List Char :=
  let count := max 1 precision
  let (digits, power) := scientificDigits (count - 1) mantissa exponent
  let kept := fun (fraction : List Char) => if alternate then fraction else withoutZeros fraction
  if -4 ≤ power ∧ power < Int.ofNat count then
    let places := (Int.ofNat count - 1 - power).toNat
    let all := fixed false places mantissa exponent
    let whole := all.takeWhile (· ≠ '.')
    withPoint alternate whole (kept (all.drop (whole.length + 1)))
  else withPoint alternate (digits.take 1) (kept (digits.drop 1)) ++ exponentText power

def binary (alternate : Bool) (places : Option Nat) (mantissa : Nat) (exponent : Int) : List Char :=
  let power : Int := if mantissa = 0 then 0 else exponent + 52
  let (value, count) :=
    match places with
    | some count =>
        if count < 13 then (nearest mantissa (1 <<< (4 * (13 - count))), count)
        else (mantissa <<< (4 * (count - 13)), count)
    | none => (mantissa, 13)
  let digits := Numeral.padStart (count + 1) (Nat.toDigits 16 value)
  let fraction := digits.drop (digits.length - count)
  ['0', 'x'] ++ withPoint alternate (digits.take (digits.length - count))
    (if places.isNone then withoutZeros fraction else fraction) ++
    ['p', if power < 0 then '-' else '+'] ++ Nat.toDigits 10 power.natAbs

def shown (conversion : Char) (alternate : Bool) (precision : Option Nat) : Floating → List Char
  | .infinite _ => "inf".toList
  | .undefined _ => "nan".toList
  | .finite _ mantissa exponent =>
      match conversion with
      | 'f' => fixed alternate (precision.getD 6) mantissa exponent
      | 'e' => scientific alternate (precision.getD 6) mantissa exponent
      | 'a' => binary alternate precision mantissa exponent
      | _ => general alternate (precision.getD 6) mantissa exponent

end Floating

end Shell

end Bootstrap
