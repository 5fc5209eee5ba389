import Bootstrap.StandIns.Shell.Options

/-!
The tools that show the first or the last part of files.
-/

namespace Bootstrap

namespace Shell

inductive Counted where
  | value (count : Nat)
  | tooLarge
  | senseless
  deriving DecidableEq, Repr

namespace Counted

def powers : List (Char × Nat) :=
  [('k', 1), ('K', 1), ('m', 2), ('M', 2), ('G', 3), ('T', 4), ('P', 5), ('E', 6), ('Z', 7),
    ('Y', 8), ('R', 9), ('Q', 10)]

def raised (base : Nat) : Nat → Nat
  | 0 => 1
  | power + 1 => base * raised base power

def factor? (text : List Char) : Option Nat :=
  match text with
  | [] => some 1
  | ['b'] => some 512
  | letter :: rest =>
      match powers.find? fun entry => entry.1 = letter with
      | none => none
      | some (_, power) =>
          match rest with
          | [] => some (raised 1024 power)
          | ['i', 'B'] => some (raised 1024 power)
          | ['B'] => some (raised 1000 power)
          | ['D'] => some (raised 1000 power)
          | _ => none

def read (text : Octets) : Counted :=
  let plain :=
    match text.dropWhile CharacterClass.isSpace with
    | '+' :: rest => rest
    | rest => rest
  let digits := plain.takeWhile Char.isDigit
  let rest := plain.drop digits.length
  let count :=
    if digits.isEmpty then if rest.isEmpty ∨ rest.length < text.length then none else some 1
    else Numeral.natural? digits
  match count, factor? rest with
  | some count, some factor =>
      if count * factor < Numeral.wordBound then .value (count * factor) else .tooLarge
  | _, _ => .senseless

end Counted

namespace Excerpt

structure Extent where
  bytes : Bool
  fromEnd : Bool
  count : Nat
  deriving DecidableEq, Repr

def Extent.stopsAtDirectory (extent : Extent) : Bool :=
  extent.bytes || !extent.fromEnd && extent.count ≤ 1

def Extent.isEmpty (extent : Extent) (tail : Bool) : Bool :=
  extent.count = 0 && extent.fromEnd = tail

structure Request where
  extent : Extent
  headings : Option Bool
  lineEnd : UInt8
  deriving DecidableEq, Repr

def digits : List OptionForm :=
  ['0', '1', '2', '3', '4', '5', '6', '7', '8', '9'].map OptionForm.letterOnly

def forms (tail : Bool) : List OptionForm :=
  [.valued 'c' "bytes"] ++ (if tail then [⟨"follow", some 'f', some "follow", .optional⟩] else []) ++
    [.valued 'n' "lines"] ++
    (if tail then [⟨"pid", none, some "pid", .required⟩] else []) ++
    [.flag 'q' "quiet"] ++ (if tail then [.nameOnly "retry"] else []) ++
    [⟨"quiet", none, some "silent", .none⟩] ++
    (if tail then [.valued 's' "sleep-interval", .letterOnly 'F'] else []) ++
    [.flag 'v' "verbose", .flag 'z' "zero-terminated"] ++ OptionForm.standard ++ digits

structure Misuse where
  text : String
  pointed : Bool

def trouble (bytes : Bool) (text : Octets) (tooLarge : Bool) : Misuse :=
  ⟨"invalid number of " ++ (if bytes then "bytes: " else "lines: ") ++ Quoted.curly text ++
    if tooLarge then ": Value too large for defined data type" else "", false⟩

/-- The extent that a value asks for; a sign turns it round. A tail that has been turned round once
stays so. -/
def extentOf (tail bytes : Bool) (before : Extent) (text : Octets) : Except Misuse Extent :=
  let (fromEnd, number) :=
    if tail then
      match text with
      | '+' :: _ => (false, text)
      | '-' :: rest => (before.fromEnd, rest)
      | _ => (before.fromEnd, text)
    else
      match text with
      | '-' :: rest => (true, rest)
      | _ => (false, text)
  match Counted.read number with
  | .value count => .ok ⟨bytes, fromEnd, count⟩
  | .tooLarge => .error (trouble bytes number true)
  | .senseless => .error (trouble bytes number false)

def strayDigit (tail : Bool) (digit : String) : Misuse :=
  if tail then ⟨"option used in invalid context -- " ++ digit, false⟩
  else ⟨"invalid trailing option -- " ++ digit, true⟩

def isSeconds (text : Octets) : Bool :=
  !text.isEmpty && text.all (fun character => character.isDigit || character = '.') &&
    text.any Char.isDigit

def withGiven (tail : Bool) (request : Request) (given : Given) : Except Misuse Request :=
  let value := given.value.getD []
  match given.key with
  | "bytes" => do return { request with extent := ← extentOf tail true request.extent value }
  | "lines" => do return { request with extent := ← extentOf tail false request.extent value }
  | "quiet" => .ok { request with headings := some false }
  | "verbose" => .ok { request with headings := some true }
  | "zero-terminated" => .ok { request with lineEnd := 0 }
  | "sleep-interval" =>
      if isSeconds value then .ok request
      else .error ⟨"invalid number of seconds: " ++ Quoted.curly value, false⟩
  | key =>
      if key.toList.any Char.isDigit then .error (strayDigit tail key) else .ok request

def withAll (tail : Bool) (request : Request) : List Given → Except Misuse Request
  | [] => .ok request
  | given :: rest => do withAll tail (← withGiven tail request given) rest

/-- The letters behind a count that is the first option. -/
def withLetters (request : Request) (factor : Octets) : List Char →
    Except Char (Request × Octets)
  | [] => .ok (request, factor)
  | letter :: rest =>
      let counting := fun (bytes : Bool) =>
        { request with extent := { request.extent with bytes := bytes } }
      if letter = 'c' then withLetters (counting true) [] rest
      else if letter = 'b' ∨ letter = 'k' ∨ letter = 'm' then
        withLetters (counting true) [letter] rest
      else if letter = 'l' then withLetters (counting false) factor rest
      else if letter = 'q' then withLetters { request with headings := some false } factor rest
      else if letter = 'v' then withLetters { request with headings := some true } factor rest
      else if letter = 'z' then withLetters { request with lineEnd := 0 } factor rest
      else .error letter

def start (tail : Bool) : Request :=
  ⟨⟨false, tail, 10⟩, none, Tool.lineEnd⟩

def brief (word : Octets) : Except Misuse Request := do
  let count := word.takeWhile Char.isDigit
  match withLetters (start false) [] (word.drop count.length) with
  | .error letter => throw (strayDigit false (Octets.toText [letter]))
  | .ok (request, factor) =>
      let extent ← extentOf false request.extent.bytes request.extent (count ++ factor)
      return { request with extent := extent }

def startsWithDigit (text : Octets) : Bool :=
  text.head?.any Char.isDigit

def mayBeBrief (others : List Octets) : Bool :=
  match others with
  | [] => true
  | [only] => only.head? ≠ some '-' || only.length < 2 || only = ['-', '-']
  | [first, _] => first = ['-', '-']
  | _ => false

def briefTail? (word : Octets) : Option (Except Misuse Request) :=
  let number := word.drop 1
  let count := number.takeWhile Char.isDigit
  let letters := number.drop count.length
  let kind := letters.head?.getD 'l'
  let known := ['b', 'c', 'l'].contains kind
  let rest := if letters.isEmpty then [] else if known then letters.drop 1 else letters
  let sign := word.head?
  if (sign ≠ some '+' ∧ sign ≠ some '-') ∨ (rest ≠ [] ∧ rest ≠ ['f']) ∨
      (sign = some '-' ∧ (number.isEmpty ∨ number = ['c'])) then none
  else
    let factor := if kind = 'b' then 512 else 1
    match Counted.read (if count.isEmpty then ['1', '0'] else count) with
    | .value value =>
        some (.ok { start true with
          extent := ⟨kind = 'b' || kind = 'c', sign = some '-', value * factor⟩ })
    | _ =>
        some (.error ⟨"invalid number: " ++ Quoted.curly word ++
          ": Numerical result out of range", false⟩)

def firstRequest (tail : Bool) (words : List Octets) : Except Misuse (Request × List Octets) := do
  match words with
  | [] => return (start tail, [])
  | word :: rest =>
      if tail then
        match if mayBeBrief rest then briefTail? word else none with
        | some found => return (← found, rest)
        | none => return (start true, words)
      else if word.head? = some '-' ∧ startsWithDigit (word.drop 1) then
        return (← brief (word.drop 1), rest)
      else return (start false, words)

def request (tail : Bool) (words : List Octets) : Except Misuse (Request × List Octets) := do
  let (first, others) ← firstRequest tail words
  let sorted := Sorted.sort (forms tail) true others
  let final ← withAll tail first sorted.given
  match sorted.trouble with
  | none => return (final, sorted.operands)
  | some text => throw ⟨text, true⟩

def lines (lineEnd : UInt8) : Bytes → List Bytes
  | [] => []
  | byte :: rest =>
      if byte = lineEnd then [byte] :: lines lineEnd rest
      else
        match lines lineEnd rest with
        | [] => [[byte]]
        | first :: others => (byte :: first) :: others

def front (extent : Extent) (parts : List α) : List α :=
  parts.take (if extent.fromEnd then parts.length - extent.count else extent.count)

def back (extent : Extent) (parts : List α) : List α :=
  parts.drop (if extent.fromEnd then parts.length - extent.count else extent.count - 1)

def headOf (request : Request) (bytes : Bytes) : Bytes :=
  if request.extent.bytes then front request.extent bytes
  else (front request.extent (lines request.lineEnd bytes)).flatten

def tailOf (request : Request) (bytes : Bytes) : Bytes :=
  if request.extent.bytes then back request.extent bytes
  else (back request.extent (lines request.lineEnd bytes)).flatten

def heading (isFirst : Bool) (operand : Octets) : String :=
  let name := if operand = ['-'] then "standard input" else Octets.toText operand
  (if isFirst then "" else "\n") ++ "==> " ++ name ++ " <==\n"

def quotedOperand (operand : Octets) : String :=
  if operand = ['-'] then "'standard input'" else Quoted.always operand

/-- Takes the part of the standard input that is wanted. A head of so many bytes reads no more. -/
def takePart (tail : Bool) (request : Request) : Tool (Except OsError Bytes) := do
  let choose := if tail then tailOf request else headOf request
  let exact := !tail && request.extent.bytes && !request.extent.fromEnd
  if exact then
    let found := (← get).pending 0
    modify fun bench => bench.skip 0 request.extent.count
    return found.map choose
  else Tool.takeSome choose fun bytes => if tail then bytes.length else (choose bytes).length

def showAll (tool : String) (tail : Bool) (request : Request) (headings : Bool) :
    (isFirst : Bool) → List Octets → Tool Nat
  | _, [] => return 0
  | isFirst, operand :: rest => do
      let part ← if operand = ['-'] then takePart tail request
        else do
          let content ← Tool.read operand
          pure (content.map (if tail then tailOf request else headOf request))
      let found : Except OsError Bytes := match part with
        | .error .isADirectory =>
            if !tail && request.extent.isEmpty false then .ok [] else .error .isADirectory
        | part => part
      let opened : Bool := match found with
        | .ok _ => true
        | .error error => operand = ['-'] || error = .isADirectory
      if headings ∧ opened then Tool.writeText 1 (heading isFirst operand)
      match found with
      | .ok bytes =>
          Tool.emit bytes
          showAll tool tail request headings false rest
      | .error error =>
          Tool.complain tool (if opened then
            "error reading " ++ quotedOperand operand ++ ": " ++ error.reason
          else "cannot open " ++ quotedOperand operand ++ " for reading: " ++ error.reason)
          if tail && error = .isADirectory && request.extent.stopsAtDirectory then return 1
          else
            let others := isFirst && !(headings && opened)
            return max 1 (← showAll tool tail request headings others rest)

def closeInput (tool : String) (operands : List Octets) : Tool Nat := do
  if operands.contains ['-'] ∧ ((← get).channel? 0).isNone then
    Tool.complain tool ("-: " ++ OsError.reason .badDescriptor)
    return 1
  else return 0

def run (tool : String) (tail : Bool) (words : List Octets) : Tool Nat := do
  match request tail words with
  | .error misuse =>
      Tool.complain tool misuse.text
      if misuse.pointed then Tool.pointToHelp tool else return 1
  | .ok (request, given) =>
      if tail ∧ request.extent.isEmpty true then return 0
      let operands := if given.isEmpty then [['-']] else given
      let headings := request.headings.getD (decide (1 < operands.length))
      let status ← showAll tool tail request headings true operands
      return max status (← closeInput tool operands)

end Excerpt

end Shell

end Bootstrap
