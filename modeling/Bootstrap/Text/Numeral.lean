/-!
Decimal numerals with an optional sign, read within given bounds, and fixed-width digits.
-/

namespace Bootstrap

namespace Numeral

def digit? (character : Char) : Option Nat :=
  if '0' ≤ character ∧ character ≤ '9' then some (character.toNat - '0'.toNat) else none

def digitsFrom (value : Nat) : List Char → Option Nat
  | [] => some value
  | character :: rest => (digit? character).bind fun digit => digitsFrom (value * 10 + digit) rest

def natural? : List Char → Option Nat
  | [] => none
  | digits => digitsFrom 0 digits

def signed? : List Char → Option Int
  | '+' :: digits => (natural? digits).map Int.ofNat
  | '-' :: digits => (natural? digits).map fun value => -Int.ofNat value
  | digits => (natural? digits).map Int.ofNat

def unsigned? : List Char → Option Nat
  | '+' :: digits => natural? digits
  | digits => natural? digits

def wordBound : Nat :=
  18446744073709551616

def signedBound : Int :=
  9223372036854775808

def int64? (text : String) : Option Int :=
  (signed? text.toList).filter fun value => decide (-signedBound ≤ value ∧ value < signedBound)

def word64? (text : String) : Option Nat :=
  (unsigned? text.toList).filter fun value => decide (value < wordBound)

def padStart (width : Nat) (digits : List Char) : List Char :=
  List.replicate (width - digits.length) '0' ++ digits

def padded (width value : Nat) : String :=
  String.ofList (padStart width (Nat.toDigits 10 value))

def hex (width value : Nat) : String :=
  String.ofList (padStart width (Nat.toDigits 16 value))

end Numeral

end Bootstrap
