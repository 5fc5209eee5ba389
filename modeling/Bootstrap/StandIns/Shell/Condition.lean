import Bootstrap.StandIns.Shell.Arithmetic
import Bootstrap.StandIns.Shell.Bench

/-!
The conditions of the test tool. A condition that makes no sense has no answer.
-/

namespace Bootstrap

namespace Shell

namespace Condition

inductive Kind where
  | unary
  | binary
  | negation
  | both
  | either
  | opening
  | closing
  deriving DecidableEq, Repr

inductive Lexeme where
  | ending
  | operand
  | operator (name : String) (kind : Kind)
  deriving DecidableEq, Repr

abbrev Verdict (α : Type) := Except Octets α

def unaryNames : List String :=
  ["-r", "-w", "-x", "-e", "-f", "-d", "-c", "-b", "-p", "-u", "-g", "-k", "-s", "-t", "-z", "-n",
    "-h", "-L", "-O", "-G", "-S"]

def binaryNames : List String :=
  ["=", "!=", "<", ">", "-eq", "-ne", "-ge", "-gt", "-le", "-lt", "-nt", "-ot", "-ef"]

def kindOf? (word : Octets) : Option Kind :=
  let name := Octets.toText word
  if unaryNames.contains name then some .unary
  else if binaryNames.contains name then some .binary
  else if name = "!" then some .negation
  else if name = "-a" then some .both
  else if name = "-o" then some .either
  else if name = "(" then some .opening
  else if name = ")" then some .closing
  else none

def isBinary (word : Octets) : Bool :=
  kindOf? word = some .binary

/-- A file question at the end, or in front of a comparison, is a plain text. -/
def lexeme (words : List Octets) : Lexeme :=
  match words with
  | [] => .ending
  | word :: rest =>
      let standsAlone := match rest with
        | [] => true
        | [_] => false
        | next :: _ => isBinary next
      match kindOf? word with
      | none => .operand
      | some kind =>
          if (kind = .unary && standsAlone) || (kind = .opening && rest.isEmpty) then .operand
          else .operator (Octets.toText word) kind

def refuse (operator : Octets) (message : String) : Verdict α :=
  .error (if operator.isEmpty then message.toList else operator ++ (": " ++ message).toList)

def number (text : Octets) : Verdict Int :=
  let trimmed := ((text.dropWhile CharacterClass.isSpace).reverse.dropWhile
    CharacterClass.isSpace).reverse
  let found := (Numeral.signed? trimmed).filter fun value =>
    decide (-Numeral.signedBound ≤ value ∧ value < Numeral.signedBound)
  match found with
  | some value => .ok value
  | none => .error ("Illegal number: ".toList ++ text)

def fileNumber? (disk : Disk) (path : Path) : Option Nat :=
  match disk.find? path with
  | some (.file number _) => some number
  | _ => none

def sameFile (disk : Disk) (left right : Path) : Bool :=
  match disk.look left, disk.look right with
  | .ok (first, .file number _), .ok (second, .file other _) => first = second || number = other
  | .ok (first, _), .ok (second, _) => first = second
  | _, _ => false

/-- Files with higher numbers are newer. -/
def isNewer (disk : Disk) (left right : Path) : Bool :=
  match fileNumber? disk left, fileNumber? disk right with
  | some first, some second => second < first
  | _, _ => false

def compare (disk : Disk) (left right : Octets) (operator : String) : Verdict Bool := do
  let onNumbers := fun (holds : Int → Int → Bool) => do
    let first ← number left
    let second ← number right
    return holds first second
  match operator with
  | "=" => return left = right
  | "!=" => return left ≠ right
  | "<" => return left < right
  | ">" => return right < left
  | "-eq" => onNumbers fun first second => first = second
  | "-ne" => onNumbers fun first second => first ≠ second
  | "-lt" => onNumbers fun first second => first < second
  | "-le" => onNumbers fun first second => first ≤ second
  | "-gt" => onNumbers fun first second => second < first
  | "-ge" => onNumbers fun first second => second ≤ first
  | "-ef" => return sameFile disk (Tool.path left) (Tool.path right)
  | "-nt" => return isNewer disk (Tool.path left) (Tool.path right)
  | _ => return isNewer disk (Tool.path right) (Tool.path left)

def isDevice (disk : Disk) (path : Path) : Bool :=
  match disk.find? path with
  | some .device => true
  | _ => false

def isFilled (disk : Disk) (path : Path) : Bool :=
  match disk.find? path with
  | some (.file _ content) => !content.isEmpty
  | some .directory => true
  | _ => false

def ask (disk : Disk) (operand : Octets) (operator : String) : Verdict Bool := do
  let path := Tool.path operand
  match operator with
  | "-n" => return !operand.isEmpty
  | "-z" => return operand.isEmpty
  | "-t" =>
      let _ ← number operand
      return false
  | "-f" => return disk.isFile path
  | "-d" => return disk.isDir path
  | "-x" => return disk.isDir path
  | "-s" => return isFilled disk path
  | "-c" => return isDevice disk path
  | _ => return ["-e", "-r", "-w", "-O", "-G"].contains operator && disk.contains path

section Reading

variable (disk : Disk)

/-- A comparison, a file question or a nonempty text at the front of the words; the answer comes
with the words from its last one on. -/
def simple (words : List Octets) : Lexeme → Verdict (Bool × List Octets)
  | .ending => .ok (false, words)
  | .operator name .unary =>
      match words.drop 1 with
      | [] => refuse name.toList "argument expected"
      | operand :: rest => do return (← ask disk operand name, operand :: rest)
  | _ =>
      match words, lexeme (words.drop 1) with
      | left :: _ :: rest, .operator name .binary =>
          match rest with
          | [] => refuse name.toList "argument expected"
          | right :: after => do return (← compare disk left right name, right :: after)
      | left :: _, _ => .ok (!left.isEmpty, words)
      | [], _ => .ok (false, words)

mutual

def negated : (fuel : Nat) → List Octets → Lexeme → Verdict (Bool × List Octets)
  | 0, _, _ => refuse [] "argument expected"
  | fuel + 1, words, first =>
      match first with
      | .operator _ .negation => do
          let next := lexeme (words.drop 1)
          let (holds, rest) ←
            negated fuel (if next = .ending then words else words.drop 1) next
          return (!holds, rest)
      | .operator _ .opening => do
          let next := lexeme (words.drop 1)
          match next with
          | .operator _ .closing => return (false, words.drop 1)
          | _ =>
              let (holds, rest) ← either fuel (words.drop 1) next
              match lexeme (rest.drop 1) with
              | .operator _ .closing => return (holds, rest.drop 1)
              | _ => refuse [] "closing paren expected"
      | _ => simple disk words first

def both : (fuel : Nat) → List Octets → Lexeme → Verdict (Bool × List Octets)
  | 0, _, _ => refuse [] "argument expected"
  | fuel + 1, words, first => do
      let (left, rest) ← negated fuel words first
      match lexeme (rest.drop 1) with
      | .operator _ .both =>
          let (right, final) ← both fuel (rest.drop 2) (lexeme (rest.drop 2))
          return (left && right, final)
      | _ => return (left, rest)

def either : (fuel : Nat) → List Octets → Lexeme → Verdict (Bool × List Octets)
  | 0, _, _ => refuse [] "argument expected"
  | fuel + 1, words, first => do
      let (left, rest) ← both fuel words first
      match lexeme (rest.drop 1) with
      | .operator _ .either =>
          let (right, final) ← either fuel (rest.drop 2) (lexeme (rest.drop 2))
          return (left || right, final)
      | _ => return (left, rest)

end

def general (words : List Octets) (first : Lexeme) : Verdict Bool := do
  let (holds, rest) ← either disk (4 * words.length + 4) words first
  match rest with
  | word :: _ :: _ => refuse word "unexpected operator"
  | _ => return holds

/-- Three words with a comparison in the middle are one whatever its operands look like; parentheses
around all of three or four words are dropped first, and a sign of negation is taken off. -/
def holds : (fuel : Nat) → List Octets → Verdict Bool
  | 0, _ => .ok false
  | fuel + 1, words =>
      let inner := fun (_ : Unit) =>
        if words.head? = some ['('] ∧ words.getLast? = some [')'] then
          let within := (words.drop 1).dropLast
          general disk within (lexeme within)
        else if words.head? = some ['!'] then (holds fuel (words.drop 1)).map (!·)
        else general disk words (lexeme words)
      match words with
      | [] => .ok false
      | [_, operator, _] => if isBinary operator then general disk words .operand else inner ()
      | [_, _, _, _] => inner ()
      | _ => general disk words (lexeme words)

def test (words : List Octets) : Nat × List Octets :=
  match holds disk (words.length + 1) words with
  | .ok true => (0, [])
  | .ok false => (1, [])
  | .error complaint => (2, [complaint])

def bracket (words : List Octets) : Nat × List Octets :=
  if (words.getLast?.bind List.head?) = some ']' then test disk words.dropLast else (2, ["missing ]".toList])

end Reading

end Condition

end Shell

end Bootstrap
