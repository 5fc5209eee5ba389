/-!
UTF-8 over lists of bytes: writing a text, splitting bytes into characters and ill-formed parts,
strict and lossy reading.
-/

namespace Bootstrap

abbrev Bytes := List UInt8

namespace Utf8

def encode (text : String) : Bytes :=
  text.toList.flatMap String.utf8EncodeChar

/-- What a decoder finds at one position: a character, a maximal ill-formed part of the given
length, or a sequence that the end of the bytes cuts off. -/
inductive Part where
  | char (value : Char)
  | illFormed (length : Nat)
  | cutOff
  deriving DecidableEq, Repr

/-- Lowest and highest admissible byte at each position that a lead byte announces. -/
def followers (lead : UInt8) : List (UInt8 × UInt8) :=
  if lead < 0xC2 then []
  else if lead < 0xE0 then [(0x80, 0xBF)]
  else if lead = 0xE0 then [(0xA0, 0xBF), (0x80, 0xBF)]
  else if lead = 0xED then [(0x80, 0x9F), (0x80, 0xBF)]
  else if lead < 0xF0 then [(0x80, 0xBF), (0x80, 0xBF)]
  else if lead = 0xF0 then [(0x90, 0xBF), (0x80, 0xBF), (0x80, 0xBF)]
  else if lead < 0xF4 then [(0x80, 0xBF), (0x80, 0xBF), (0x80, 0xBF)]
  else if lead = 0xF4 then [(0x80, 0x8F), (0x80, 0xBF), (0x80, 0xBF)]
  else []

def faultAfter : List (UInt8 × UInt8) → Bytes → Nat → Part
  | [], _, seen => .illFormed seen
  | _ :: _, [], _ => .cutOff
  | (low, high) :: expected, byte :: rest, seen =>
      if low ≤ byte ∧ byte ≤ high then faultAfter expected rest (seen + 1) else .illFormed seen

def partAt (first : UInt8) (rest : Bytes) : Part :=
  match (first :: rest.take 3).toByteArray.utf8DecodeChar? 0 with
  | some value => .char value
  | none => faultAfter (followers first) rest 1

/-- The parts of a byte sequence with their offsets; `skip` bytes at the front belong to the part
before. -/
def partsFrom : (offset skip : Nat) → Bytes → List (Nat × Part)
  | _, _, [] => []
  | offset, skip + 1, _ :: rest => partsFrom (offset + 1) skip rest
  | offset, 0, first :: rest =>
      match partAt first rest with
      | .char value => (offset, .char value) :: partsFrom (offset + 1) (value.utf8Size - 1) rest
      | .illFormed length => (offset, .illFormed length) :: partsFrom (offset + 1) (length - 1) rest
      | .cutOff => [(offset, .cutOff)]

def parts (bytes : Bytes) : List (Nat × Part) :=
  partsFrom 0 0 bytes

inductive Fault where
  | illFormed (offset length : Nat)
  | cutOff (offset : Nat)
  deriving DecidableEq, Repr

def Fault.message : Fault → String
  | .illFormed offset length =>
      "invalid utf-8 sequence of " ++ toString length ++ " bytes from index " ++ toString offset
  | .cutOff offset => "incomplete utf-8 byte sequence from index " ++ toString offset

def charsOfParts : List (Nat × Part) → Except Fault (List Char)
  | [] => .ok []
  | (_, .char value) :: rest =>
      match charsOfParts rest with
      | .ok values => .ok (value :: values)
      | .error fault => .error fault
  | (offset, .illFormed length) :: _ => .error (.illFormed offset length)
  | (offset, .cutOff) :: _ => .error (.cutOff offset)

def decode (bytes : Bytes) : Except Fault String :=
  match charsOfParts (parts bytes) with
  | .ok values => .ok (String.ofList values)
  | .error fault => .error fault

def decode? (bytes : Bytes) : Option String :=
  (decode bytes).toOption

def decodeLossy (bytes : Bytes) : String :=
  String.ofList ((parts bytes).map fun (_, part) =>
    match part with
    | .char value => value
    | _ => Char.ofNat 0xFFFD)

end Utf8

end Bootstrap
