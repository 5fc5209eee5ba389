import Bootstrap.StandIns.Shell.CharacterClass
import Bootstrap.StandIns.Shell.WordReader
import Bootstrap.Text.Numeral

/-!
Integer expressions of 64 bits, with assignments, as arithmetic expansions compute them.
-/

namespace Bootstrap

namespace Shell

namespace Arithmetic

inductive Operator where
  | multiply
  | divide
  | remainder
  | add
  | subtract
  | shiftLeft
  | shiftRight
  | below
  | atMost
  | above
  | atLeast
  | equal
  | unequal
  | bitAnd
  | bitXor
  | bitOr
  deriving DecidableEq, Repr

inductive Token where
  | number (value : Int64)
  | name (text : Octets)
  | operator (operator : Operator)
  | assign (operator : Option Operator)
  | sign (text : String)
  | unknown
  deriving DecidableEq, Repr

/-- What is wrong with an expression; an overflowing quotient ends the whole shell. -/
inductive Fault where
  | noOperand
  | unclosed
  | noAlternative
  | surplus
  | zeroDivisor
  | overflow
  | illegal (text : Octets)
  deriving DecidableEq, Repr

def ofBool (value : Bool) : Int64 :=
  if value then 1 else 0

def Operator.rank : Operator → Nat
  | .multiply => 0
  | .divide => 0
  | .remainder => 0
  | .add => 1
  | .subtract => 1
  | .shiftLeft => 2
  | .shiftRight => 2
  | .below => 3
  | .atMost => 3
  | .above => 3
  | .atLeast => 3
  | .equal => 4
  | .unequal => 4
  | .bitAnd => 5
  | .bitXor => 6
  | .bitOr => 7

def lastRank : Nat := 8

def quotient (left right : Int64) (result : Int64) : Except Fault Int64 :=
  if right = 0 then .error .zeroDivisor
  else if right = -1 ∧ left = Int64.minValue then .error .overflow
  else .ok result

def Operator.apply (operator : Operator) (left right : Int64) : Except Fault Int64 :=
  match operator with
  | .multiply => .ok (left * right)
  | .divide => quotient left right (left / right)
  | .remainder => quotient left right (left % right)
  | .add => .ok (left + right)
  | .subtract => .ok (left - right)
  | .shiftLeft => .ok (left <<< right)
  | .shiftRight => .ok (left >>> right)
  | .below => .ok (ofBool (left < right))
  | .atMost => .ok (ofBool (left ≤ right))
  | .above => .ok (ofBool (right < left))
  | .atLeast => .ok (ofBool (right ≤ left))
  | .equal => .ok (ofBool (left = right))
  | .unequal => .ok (ofBool (left ≠ right))
  | .bitAnd => .ok (left &&& right)
  | .bitXor => .ok (left ^^^ right)
  | .bitOr => .ok (left ||| right)

/-- The signs of tokens; of two that fit, the longer comes first. -/
def signs : List (String × Token) :=
  [("<<=", .assign (some .shiftLeft)), (">>=", .assign (some .shiftRight)), ("||", .sign "||"),
    ("&&", .sign "&&"), ("==", .operator .equal), ("!=", .operator .unequal),
    ("<=", .operator .atMost), (">=", .operator .atLeast), ("<<", .operator .shiftLeft),
    (">>", .operator .shiftRight), ("*=", .assign (some .multiply)), ("/=", .assign (some .divide)),
    ("%=", .assign (some .remainder)), ("+=", .assign (some .add)), ("-=", .assign (some .subtract)),
    ("&=", .assign (some .bitAnd)), ("^=", .assign (some .bitXor)), ("|=", .assign (some .bitOr)),
    ("=", .assign none), ("|", .operator .bitOr), ("^", .operator .bitXor), ("&", .operator .bitAnd),
    ("<", .operator .below), (">", .operator .above), ("+", .operator .add),
    ("-", .operator .subtract), ("*", .operator .multiply), ("/", .operator .divide),
    ("%", .operator .remainder), ("!", .sign "!"), ("~", .sign "~"), ("(", .sign "("), (")", .sign ")"),
    ("?", .sign "?"), (":", .sign ":")]

def isBlank (character : Char) : Bool :=
  [' ', '\t', '\n'].contains character

def digitValue? (character : Char) : Option Nat :=
  if '0' ≤ character ∧ character ≤ '9' then some (character.toNat - '0'.toNat)
  else if 'a' ≤ character ∧ character ≤ 'f' then some (character.toNat - 'a'.toNat + 10)
  else if 'A' ≤ character ∧ character ≤ 'F' then some (character.toNat - 'A'.toNat + 10)
  else none

def digits (base : Nat) : Nat → List Char → Nat × List Char
  | value, [] => (value, [])
  | value, character :: rest =>
      match digitValue? character with
      | some digit =>
          if digit < base then digits base (value * base + digit) rest else (value, character :: rest)
      | none => (value, character :: rest)

def startsWithDigit : List Char → Bool
  | [] => false
  | character :: _ => (digitValue? character).isSome

/-- A numeral: hexadecimal behind 0x, octal behind another zero, else decimal. -/
def numeral : List Char → Nat × List Char
  | '0' :: mark :: rest =>
      if (mark = 'x' ∨ mark = 'X') ∧ startsWithDigit rest then digits 16 0 rest
      else digits 8 0 (mark :: rest)
  | characters => digits 10 0 characters

def integer? (characters : List Char) : Option (Int × List Char) :=
  let unsigned := fun (rest : List Char) =>
    match rest with
    | [] => none
    | first :: _ => if first.isDigit then some (numeral rest) else none
  match characters.dropWhile CharacterClass.isSpace with
  | '-' :: rest => (unsigned rest).map fun (value, after) => (-Int.ofNat value, after)
  | '+' :: rest => (unsigned rest).map fun (value, after) => (Int.ofNat value, after)
  | rest => (unsigned rest).map fun (value, after) => (Int.ofNat value, after)

def saturated (value : Int) : Int64 :=
  Int64.ofInt (max (-Numeral.signedBound) (min (Numeral.signedBound - 1) value))

def tokensFrom : (fuel : Nat) → List Char → List Token
  | 0, _ => []
  | _ + 1, [] => []
  | fuel + 1, character :: rest =>
      if isBlank character then tokensFrom fuel rest
      else if character.isDigit then
        let (value, after) := numeral (character :: rest)
        .number (saturated value) :: tokensFrom fuel after
      else if isNameStart character then
        .name (character :: rest.takeWhile isNamePart) ::
          tokensFrom fuel (rest.dropWhile isNamePart)
      else
        let found := signs.findSome? fun (sign, token) =>
          (sign.toList.isPrefixOf? (character :: rest)).map fun after => (token, after)
        match found with
        | some (token, after) => token :: tokensFrom fuel after
        | none => [.unknown]

def tokens (text : Octets) : List Token :=
  tokensFrom (text.length + 1) text

def ofVariable (text : Octets) : Except Fault Int64 :=
  match integer? text with
  | some (value, rest) =>
      if rest.all CharacterClass.isSpace ∧ -Numeral.signedBound ≤ value ∧
          value < Numeral.signedBound then .ok (saturated value)
      else .error (.illegal text)
  | none => if text.all CharacterClass.isSpace then .ok 0 else .error (.illegal text)

structure Work where
  rest : List Token
  assigned : List (Octets × Int64)

abbrev Evaluation := StateT Work (Except Fault)

namespace Evaluation

def fail (fault : Fault) : Evaluation α :=
  fun _ => .error fault

def lift (result : Except Fault α) : Evaluation α :=
  fun work => result.map fun value => (value, work)

def take : Evaluation (Option Token) := do
  let work ← get
  set { work with rest := work.rest.drop 1 }
  return work.rest.head?

def peek : Evaluation (Option Token) := do
  return (← get).rest.head?

def takes (text : String) : Evaluation Bool := do
  if (← peek) = some (.sign text) then
    let _ ← take
    return true
  else return false

section Reading

variable (lookup : Octets → Octets)

def valueOf (name : Octets) : Evaluation Int64 := do
  match (← get).assigned.find? fun entry => entry.1 = name with
  | some (_, value) => return value
  | none => lift (ofVariable (lookup name))

mutual

/-- A value with its signs. What does not count is read and not evaluated. -/
def operand : (fuel : Nat) → (counts : Bool) → Evaluation Int64
  | 0, _ => fail .noOperand
  | fuel + 1, counts => do
      match ← take with
      | some (.sign "(") =>
          let value ← assignment fuel counts
          if ← takes ")" then return value else fail .unclosed
      | some (.number value) => return value
      | some (.name text) => if counts then valueOf lookup text else return 0
      | some (.operator .add) => operand fuel counts
      | some (.operator .subtract) => return -(← operand fuel counts)
      | some (.sign "!") => return ofBool ((← operand fuel counts) = 0)
      | some (.sign "~") => return ~~~(← operand fuel counts)
      | _ => fail .noOperand

def continued : (fuel : Nat) → (counts : Bool) → (rank : Nat) → Int64 → Evaluation Int64
  | 0, _, _, _ => fail .noOperand
  | fuel + 1, counts, rank, left => do
      match ← peek with
      | some (.operator operator) =>
          if operator.rank < rank then
            let _ ← take
            let first ← operand fuel counts
            let right ← continued fuel counts operator.rank first
            let value ← if counts then lift (operator.apply left right) else pure right
            continued fuel counts rank value
          else return left
      | _ => return left

def both : (fuel : Nat) → (counts : Bool) → Evaluation Int64
  | 0, _ => fail .noOperand
  | fuel + 1, counts => do
      let first ← operand fuel counts
      let left ← continued fuel counts lastRank first
      if ← takes "&&" then
        let right ← both fuel (counts && left ≠ 0)
        return ofBool (left ≠ 0 && right ≠ 0)
      else return left

def either : (fuel : Nat) → (counts : Bool) → Evaluation Int64
  | 0, _ => fail .noOperand
  | fuel + 1, counts => do
      let left ← both fuel counts
      if ← takes "||" then
        let right ← either fuel (counts && left = 0)
        return ofBool (left ≠ 0 || right ≠ 0)
      else return left

def choice : (fuel : Nat) → (counts : Bool) → Evaluation Int64
  | 0, _ => fail .noOperand
  | fuel + 1, counts => do
      let condition ← either fuel counts
      if ← takes "?" then
        let first ← assignment fuel (counts && condition ≠ 0)
        if ← takes ":" then
          let second ← choice fuel (counts && condition = 0)
          return if condition ≠ 0 then first else second
        else fail .noAlternative
      else return condition

def assignment : (fuel : Nat) → (counts : Bool) → Evaluation Int64
  | 0, _ => fail .noOperand
  | fuel + 1, counts => do
      match (← get).rest with
      | .name text :: .assign operator :: rest =>
          modify fun work => { work with rest := rest }
          let value ← assignment fuel counts
          if counts then
            let result ← match operator with
              | some found => do lift (found.apply (← valueOf lookup text) value)
              | none => pure value
            modify fun work => { work with assigned := (text, result) :: work.assigned }
            return result
          else return value
      | _ => choice fuel counts

end

end Reading

end Evaluation

def evaluate (lookup : Octets → Octets) (text : Octets) :
    Except Fault (Int64 × List (Octets × Int64)) := do
  let all := tokens text
  let (value, work) ← (Evaluation.assignment lookup (16 * all.length + 16) true).run ⟨all, []⟩
  if work.rest.isEmpty then return (value, work.assigned.reverse) else throw .surplus

def Fault.message (fault : Fault) (expression : Octets) : Octets :=
  let quoted := fun (text : String) =>
    ("arithmetic expression: " ++ text ++ ": \"").toList ++ expression ++ ['"']
  match fault with
  | .noOperand => quoted "expecting primary"
  | .unclosed => quoted "expecting ')'"
  | .noAlternative => quoted "expecting ':'"
  | .surplus => quoted "expecting EOF"
  | .zeroDivisor => quoted "division by zero"
  | .overflow => quoted "overflow"
  | .illegal text => "Illegal number: ".toList ++ text

end Arithmetic

end Shell

end Bootstrap
