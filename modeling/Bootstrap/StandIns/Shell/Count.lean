import Bootstrap.StandIns.Shell.Choice
import Bootstrap.StandIns.Shell.Options

/-!
The tool that counts lines, words, characters and bytes.
-/

namespace Bootstrap

namespace Shell

namespace Count

def isWideSpace (code : Nat) : Bool :=
  code = 0xA0 || code = 0x1680 || (0x2000 ≤ code && code ≤ 0x200A) || code = 0x2028 ||
    code = 0x2029 || code = 0x202F || code = 0x205F || code = 0x2060 || code = 0x3000

def doubleRanges : List (Nat × Nat) :=
  [(0x1100, 0x115F), (0x231A, 0x231B), (0x2329, 0x232A), (0x23E9, 0x23EC), (0x2614, 0x2615),
    (0x2648, 0x2653), (0x26BD, 0x26BE), (0x2705, 0x2705), (0x270A, 0x270B), (0x2728, 0x2728),
    (0x274C, 0x274C), (0x2753, 0x2755), (0x2795, 0x2797), (0x2E80, 0x303E), (0x3041, 0x33FF),
    (0x3400, 0x4DBF), (0x4E00, 0x9FFF), (0xA000, 0xA4CF), (0xA960, 0xA97F), (0xAC00, 0xD7A3),
    (0xF900, 0xFAFF), (0xFE30, 0xFE6F), (0xFF00, 0xFF60), (0xFFE0, 0xFFE6), (0x1F300, 0x1F64F),
    (0x1F680, 0x1F6C5), (0x1F900, 0x1F9FF), (0x20000, 0x3FFFD)]

def columns (character : Char) : Nat :=
  let code := character.toNat
  if doubleRanges.any fun range => range.1 ≤ code && code ≤ range.2 then 2 else 1

structure Counts where
  lines : Nat
  words : Nat
  characters : Nat
  bytes : Nat
  longest : Nat
  deriving DecidableEq, Repr

namespace Counts

def zero : Counts :=
  ⟨0, 0, 0, 0, 0⟩

def add (first second : Counts) : Counts :=
  ⟨first.lines + second.lines, first.words + second.words, first.characters + second.characters,
    first.bytes + second.bytes, max first.longest second.longest⟩

end Counts

structure Progress where
  counts : Counts
  column : Nat
  inWord : Bool
  deriving DecidableEq, Repr

namespace Progress

def separate (progress : Progress) : Progress :=
  { progress with
    counts := { progress.counts with
      words := progress.counts.words + if progress.inWord then 1 else 0 }
    inWord := false }

def endLine (progress : Progress) : Progress :=
  { progress with
    counts := { progress.counts with longest := max progress.counts.longest progress.column }
    column := 0 }

/-- What cannot be shown neither begins a word nor ends one. -/
def character (progress : Progress) (value : Char) : Progress :=
  let counted : Progress :=
    { progress with counts := { progress.counts with characters := progress.counts.characters + 1 } }
  if value = '\n' then
    let ended := counted.endLine.separate
    { ended with counts := { ended.counts with lines := ended.counts.lines + 1 } }
  else if value = '\r' ∨ value = '\x0c' then counted.endLine.separate
  else if value = '\t' then { counted.separate with column := counted.column + 8 - counted.column % 8 }
  else if value = '\x0b' then counted.separate
  else if value = ' ' ∨ isWideSpace value.toNat then
    { counted.separate with column := counted.column + columns value }
  else if Text.isPrintable value then
    { counted with column := counted.column + columns value, inWord := true }
  else counted

def parts (progress : Progress) : List (Nat × Utf8.Part) → Progress
  | [] => progress
  | (_, .char value) :: rest => parts (progress.character value) rest
  | (_, .illFormed _) :: rest => parts progress rest
  | (_, .cutOff) :: rest => parts progress rest

end Progress

def countsOf (bytes : Bytes) : Counts :=
  let final := (Progress.parts ⟨.zero, 0, false⟩ (Utf8.parts bytes)).endLine.separate
  { final.counts with bytes := bytes.length }

structure Request where
  shown : List (Counts → Nat)
  total : String

def forms : List OptionForm :=
  [.flag 'c' "bytes", .flag 'm' "chars", .flag 'l' "lines", .flag 'w' "words",
    ⟨"files0-from", none, some "files0-from", .required⟩, .flag 'L' "max-line-length",
    ⟨"total", none, some "total", .required⟩] ++ OptionForm.standard

def totals : Choice :=
  ⟨"--total", [["auto"], ["always"], ["only"], ["never"]]⟩

def requestOf (sorted : Sorted) : Except String Request := do
  let total ← match sorted.valueOf? "total" with
    | some word => totals.meaning word
    | none => pure "auto"
  let columns : List (String × (Counts → Nat)) :=
    [("lines", Counts.lines), ("words", Counts.words), ("chars", Counts.characters),
      ("bytes", Counts.bytes), ("max-line-length", Counts.longest)]
  let chosen := columns.filter fun column => sorted.has column.1
  let standard := columns.filter fun column => ["lines", "words", "bytes"].contains column.1
  return ⟨(if chosen.isEmpty then standard else chosen).map Prod.snd, total⟩

def padLeft (width : Nat) (text : String) : String :=
  String.ofList (List.replicate (width - text.length) ' ') ++ text

def line (request : Request) (width : Nat) (counts : Counts) (name : Option Octets) : String :=
  let numbers := " ".intercalate (request.shown.map fun column => padLeft width (toString (column counts)))
  let shownName := fun (octets : Octets) =>
    if octets.contains '\n' then Quoted.asNeeded octets else Octets.toText octets
  numbers ++ (name.map fun octets => " " ++ shownName octets).getD "" ++ "\n"

inductive Size where
  | plain (size : Nat)
  | other
  | missing
  deriving DecidableEq, Repr

def sizeOf (bench : Bench) (operand : Octets) : Size :=
  if operand = ['-'] then
    match bench.channel? 0 with
    | some (_, .file number _ _) => .plain (bench.contentOf number).length
    | some _ => .other
    | none => .missing
  else
    match bench.disk.find? (Tool.path operand) with
    | some (.file _ content) => .plain content.length
    | some _ => .other
    | none => .missing

/-- Columns are as wide as the sizes of all plain files together, and wider where others are. -/
def widthOf (sizes : List Size) : Nat :=
  let total := sizes.foldl (fun sum size => match size with
    | .plain bytes => sum + bytes
    | _ => sum) 0
  max (Nat.toDigits 10 total).length (if sizes.contains .other then 7 else 1)

def countOne (request : Request) (width : Nat) (operand : Octets) (named : Bool) :
    Tool (Nat × Counts) := do
  let found ← if operand = ['-'] then Tool.takeInput else Tool.read operand
  let name := if operand = ['-'] then "'standard input'" else Quoted.name operand
  let show' := fun (counts : Counts) =>
    if request.total = "only" then pure ()
    else Tool.writeText 1 (line request width counts (if named then some operand else none))
  match found with
  | .ok bytes =>
      show' (countsOf bytes)
      return (0, countsOf bytes)
  | .error error =>
      Tool.complain "wc" (if operand.isEmpty then "invalid zero-length file name"
        else name ++ ": " ++ error.reason)
      if error = .isADirectory ∨ operand = ['-'] then show' .zero
      return (1, .zero)

def countAll (request : Request) (width : Nat) (named : Bool) : List Octets → Tool (Nat × Counts)
  | [] => return (0, .zero)
  | operand :: rest => do
      let (status, counts) ← countOne request width operand named
      let (others, sum) ← countAll request width named rest
      return (max status others, counts.add sum)

def closeInput (operands : List Octets) : Tool Nat := do
  if operands.contains ['-'] ∧ ((← get).channel? 0).isNone then
    Tool.complain "wc" ("-: " ++ OsError.reason .badDescriptor)
    return 1
  else return 0

def conclude (request : Request) (named : Bool) (operands : List Octets) : Tool Nat := do
  let bench ← get
  let single := decide (operands.length = 1) && decide (request.shown.length = 1)
  let width := if single ∨ request.total = "only" then 1 else widthOf (operands.map (sizeOf bench))
  let (status, sum) ← countAll request width named operands
  if request.total = "only" then Tool.writeText 1 (line request width sum none)
  else if request.total = "always" ∨ (request.total = "auto" ∧ 1 < operands.length) then
    Tool.writeText 1 (line request width sum (some "total".toList))
  return max status (← closeInput operands)

def listed (octets : Octets) : List Octets :=
  let (last, before) := octets.foldr (fun character (text, texts) =>
    if character = '\x00' then ([], text :: texts) else (character :: text, texts)) ([], [])
  (last :: before).filter fun text => !text.isEmpty

def run (words : List Octets) : Tool Nat := do
  let sorted := Sorted.sort forms true words
  match requestOf sorted, sorted.trouble with
  | .error text, _ => Tool.misuse "wc" text
  | .ok _, some text => Tool.misuse "wc" text
  | .ok request, none =>
      match sorted.valueOf? "files0-from" with
      | none =>
          if sorted.operands.isEmpty then conclude request false [['-']]
          else conclude request true sorted.operands
      | some source =>
          match sorted.operands with
          | operand :: _ =>
              Tool.complain "wc" ("extra operand " ++ Quoted.always operand)
              Tool.writeText 2 "file operands cannot be combined with --files0-from\n"
              Tool.pointToHelp "wc"
          | [] =>
              match ← if source = ['-'] then Tool.takeInput else Tool.read source with
              | .ok bytes => conclude request true (listed (Octets.ofBytes bytes))
              | .error error =>
                  Tool.complain "wc"
                    ("cannot open " ++ Quoted.always source ++ " for reading: " ++ error.reason)
                  return 1

end Count

end Shell

end Bootstrap
