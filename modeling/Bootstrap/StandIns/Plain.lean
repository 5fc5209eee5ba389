import Bootstrap.Text.Utf8

/-!
Texts as they are left without the sequences that steer a terminal.
-/

namespace Bootstrap

namespace Text

inductive Steering where
  | none
  | escape
  | escapeMore
  | controlStart
  | controlNumbers
  | controlMore
  | controlIgnored
  | deviceStart
  | deviceNumbers
  | deviceMore
  | deviceIgnored
  | deviceData
  | command
  | message
  deriving DecidableEq, Repr

namespace Steering

def isAmong (low high : Nat) (character : Char) : Bool :=
  low ≤ character.toNat && character.toNat ≤ high

def isIntermediate : Char → Bool :=
  isAmong 0x20 0x2F

def isParameter (character : Char) : Bool :=
  isAmong 0x30 0x39 character || character = ';'

def isFinal : Char → Bool :=
  isAmong 0x40 0x7E

def afterEscape (character : Char) : Steering :=
  if isIntermediate character then .escapeMore
  else if character = '[' then .controlStart
  else if character = ']' then .command
  else if character = 'P' then .deviceStart
  else if ['X', '^', '_'].contains character then .message
  else if isAmong 0x30 0x7E character then .none
  else .escape

/-- Some characters outside ASCII hold the byte that ends a device's data. -/
def endsData (character : Char) : Bool :=
  (Utf8.encode (String.singleton character)).contains 0x9C

def next (steering : Steering) (character : Char) : Steering :=
  if character = '\x1b' then .escape
  else if character = '\x18' ∨ character = '\x1a' then .none
  else
    match steering with
    | .none => .none
    | .escape => afterEscape character
    | .escapeMore => if isAmong 0x30 0x7E character then .none else .escapeMore
    | .controlStart =>
        if isFinal character then .none
        else if isIntermediate character then .controlMore
        else if isAmong 0x30 0x3F character then .controlNumbers
        else .controlStart
    | .controlNumbers =>
        if isFinal character then .none
        else if isIntermediate character then .controlMore
        else if isAmong 0x3C 0x3F character then .controlIgnored
        else .controlNumbers
    | .controlMore =>
        if isFinal character then .none
        else if isAmong 0x30 0x3F character then .controlIgnored
        else .controlMore
    | .controlIgnored => if isFinal character then .none else .controlIgnored
    | .deviceStart =>
        if isFinal character then .deviceData
        else if isIntermediate character then .deviceMore
        else if character = ':' then .deviceIgnored
        else if isAmong 0x30 0x3F character then .deviceNumbers
        else .deviceStart
    | .deviceNumbers =>
        if isFinal character then .deviceData
        else if isIntermediate character then .deviceMore
        else if isParameter character then .deviceNumbers
        else if isAmong 0x3A 0x3F character then .deviceIgnored
        else .deviceNumbers
    | .deviceMore =>
        if isFinal character then .deviceData
        else if isAmong 0x30 0x3F character then .deviceIgnored
        else .deviceMore
    | .deviceIgnored => if endsData character then .none else .deviceIgnored
    | .deviceData => if endsData character then .none else .deviceData
    | .command => if character = '\x07' then .none else .command
    | .message => if endsData character then .none else .message

/-- White space is shown inside a sequence too, unless the sequence carries data. -/
def showsSpace : Steering → Bool
  | .none => true
  | .escape => true
  | .escapeMore => true
  | .controlStart => true
  | .controlNumbers => true
  | .controlMore => true
  | .controlIgnored => true
  | _ => false

end Steering

def isSpacing (character : Char) : Bool :=
  ['\t', '\n', '\x0c', '\r'].contains character

def isShown (character : Char) : Bool :=
  isSpacing character || (0x20 ≤ character.toNat && character ≠ '\x7f')

/-- What is shown of a text. A control character that spaces the text breaks off the sequence that
it stands in. -/
def plainChars : Steering → List Char → List Char
  | _, [] => []
  | steering, character :: rest =>
      if steering = .none ∧ isShown character then character :: plainChars .none rest
      else if steering.showsSpace ∧ isSpacing character then character :: plainChars .none rest
      else plainChars (steering.next character) rest

def plain (text : String) : String :=
  String.ofList (plainChars .none text.toList)

end Text

end Bootstrap
