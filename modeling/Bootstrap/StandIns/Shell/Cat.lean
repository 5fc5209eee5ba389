import Bootstrap.StandIns.Shell.Options

/-!
The tool that shows files one after another, with numbers and marks where they are asked for.
-/

namespace Bootstrap

namespace Shell

namespace Cat

structure Style where
  numbers : Bool
  numbersFilled : Bool
  ends : Bool
  tabs : Bool
  controls : Bool
  squeezes : Bool
  deriving DecidableEq, Repr

def Style.isPlain (style : Style) : Bool :=
  !(style.numbers || style.numbersFilled || style.ends || style.tabs || style.controls ||
    style.squeezes)

def forms : List OptionForm :=
  [.flag 'b' "number-nonblank", .flag 'n' "number", .flag 's' "squeeze-blank",
    .flag 'v' "show-nonprinting", .flag 'E' "show-ends", .flag 'T' "show-tabs",
    .flag 'A' "show-all", .letterOnly 'e', .letterOnly 't', .letterOnly 'u'] ++ OptionForm.standard

def styleOf (sorted : Sorted) : Style where
  numbers := sorted.has "number"
  numbersFilled := sorted.has "number-nonblank"
  ends := sorted.has "show-ends" || sorted.has "show-all" || sorted.has "e"
  tabs := sorted.has "show-tabs" || sorted.has "show-all" || sorted.has "t"
  controls := sorted.has "show-nonprinting" || sorted.has "show-all" || sorted.has "e" ||
    sorted.has "t"
  squeezes := sorted.has "squeeze-blank"

/-- How far the text has come: the number of the last line, how many line ends stand in a row since
the last filled line, whether a line is under way, and whether a return waits for what follows. -/
structure Progress where
  number : Nat
  ends : Nat
  inLine : Bool
  return' : Bool
  deriving DecidableEq, Repr

def Progress.start : Progress :=
  ⟨0, 0, false, false⟩

def numbered (number : Nat) : Octets :=
  let digits := Nat.toDigits 10 number
  List.replicate (6 - digits.length) ' ' ++ digits ++ ['\t']

def visibleHalf (code : Nat) : Octets :=
  if code < 32 then ['^', Char.ofNat (code + 64)]
  else if code = 127 then ['^', '?']
  else [Char.ofNat code]

def visible (style : Style) (character : Char) : Octets :=
  let code := character.toNat
  if character = '\t' then if style.tabs then ['^', 'I'] else ['\t']
  else if !style.controls then [character]
  else if code < 128 then visibleHalf code
  else ['M', '-'] ++ visibleHalf (code - 128)

def step (style : Style) (progress : Progress) (character : Char) : Octets × Progress :=
  if character = '\n' then
    let isEmpty := !progress.inLine
    let ends := if isEmpty then min 2 (progress.ends + 1) else 0
    if isEmpty ∧ ends = 2 ∧ style.squeezes then ([], { progress with ends := ends })
    else
      let counts := isEmpty && style.numbers && !style.numbersFilled
      let number := if counts then progress.number + 1 else progress.number
      let mark := if style.ends then (if progress.return' then ['^', 'M', '$'] else ['$'])
        else []
      ((if counts then numbered number else []) ++ mark ++ ['\n'], ⟨number, ends, false, false⟩)
  else
    let counts := !progress.inLine && (style.numbers || style.numbersFilled)
    let number := if counts then progress.number + 1 else progress.number
    let before := (if progress.return' then ['\r'] else []) ++
      (if counts then numbered number else [])
    if character = '\r' ∧ style.ends ∧ !style.controls then
      (before, ⟨number, progress.ends, true, true⟩)
    else (before ++ visible style character, ⟨number, progress.ends, true, false⟩)

def shownFrom (style : Style) : Progress → Octets → List Octets → List Octets × Progress
  | progress, [], done => (done, progress)
  | progress, character :: rest, done =>
      let (text, next) := step style progress character
      shownFrom style next rest (text :: done)

def shown (style : Style) (progress : Progress) (text : Octets) : Octets × Progress :=
  let (pieces, final) := shownFrom style progress text []
  (pieces.reverse.flatten, final)

def fileOf? (bench : Bench) (operand : Octets) : Option (Nat × Nat) :=
  if operand = ['-'] then
    match bench.channel? 0 with
    | some (_, .file number offset _) => some (number, offset)
    | _ => none
  else
    match bench.disk.find? (Tool.path operand) with
    | some (.file number _) => some (number, 0)
    | _ => none

def feedsItself (bench : Bench) (operand : Octets) : Bool :=
  match bench.channel? 1, fileOf? bench operand with
  | some (_, .file target _ _), some (number, offset) =>
      target = number && decide (offset < (bench.contentOf number).length)
  | _, _ => false

def content (operand : Octets) : Tool (Except OsError Bytes) :=
  if operand = ['-'] then Tool.takeInput else Tool.read operand

def showAll (style : Style) : Progress → List Octets → Tool Nat
  | progress, [] => do
      if progress.return' then Tool.write 1 ['\r']
      return 0
  | progress, operand :: rest => do
      let complain := fun (text : String) => Tool.complain "cat" (Quoted.name operand ++ ": " ++ text)
      if feedsItself (← get) operand then
        complain "input file is output file"
        return max 1 (← showAll style progress rest)
      else
        match ← content operand with
        | .ok bytes =>
            if style.isPlain then
              Tool.emit bytes
              showAll style progress rest
            else
              let (text, next) := shown style progress (Octets.ofBytes bytes)
              Tool.write 1 text
              showAll style next rest
        | .error error =>
            complain error.reason
            return max 1 (← showAll style progress rest)

def closeInput (operands : List Octets) : Tool Nat := do
  if operands.contains ['-'] ∧ ((← get).channel? 0).isNone then
    Tool.complain "cat" ("closing standard input: " ++ OsError.reason .badDescriptor)
    return 1
  else return 0

def run (words : List Octets) : Tool Nat := do
  let sorted := Sorted.sort forms true words
  match sorted.trouble with
  | some text => Tool.misuse "cat" text
  | none =>
      if ((← get).channel? 1).isNone then
        Tool.complain "cat" ("standard output: " ++ OsError.reason .badDescriptor)
        return 1
      else
        let operands := if sorted.operands.isEmpty then [['-']] else sorted.operands
        let status ← showAll (styleOf sorted) .start operands
        return max status (← closeInput operands)

end Cat

end Shell

end Bootstrap
