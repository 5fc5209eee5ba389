import Bootstrap.Settings
import Bootstrap.Text.Numeral

/-!
Log levels, records and their one-line form.
-/

namespace Bootstrap

namespace Log

inductive Level where
  | trace
  | debug
  | info
  | warn
  | error
  deriving DecidableEq, Repr

namespace Level

def all : List Level :=
  [.trace, .debug, .info, .warn, .error]

def rank : Level → Nat
  | .trace => 0
  | .debug => 1
  | .info => 2
  | .warn => 3
  | .error => 4

def ofRank? : Nat → Option Level
  | 0 => some .trace
  | 1 => some .debug
  | 2 => some .info
  | 3 => some .warn
  | 4 => some .error
  | _ => none

def name : Level → String
  | .trace => "TRACE"
  | .debug => "DEBUG"
  | .info => "INFO"
  | .warn => "WARN"
  | .error => "ERROR"

def ofName? (name : String) : Option Level :=
  all.find? fun level => level.name = name

def ofVerbosity : Verbosity → Level
  | .trace => .trace
  | .debug => .debug
  | .info => .info
  | .warn => .warn
  | .error => .error

instance : LE Level := ⟨fun left right => left.rank ≤ right.rank⟩

instance : LT Level := ⟨fun left right => left.rank < right.rank⟩

instance (left right : Level) : Decidable (left ≤ right) :=
  inferInstanceAs (Decidable (left.rank ≤ right.rank))

instance (left right : Level) : Decidable (left < right) :=
  inferInstanceAs (Decidable (left.rank < right.rank))

theorem ofRank?_rank (level : Level) : ofRank? level.rank = some level := by
  cases level <;> rfl

end Level

/-- The time of day of a count of milliseconds, as HH:MM:SS.mmm. -/
def clockText (milliseconds : Nat) : String :=
  let seconds := milliseconds / 1000
  Numeral.padded 2 (seconds / 3600 % 24) ++ ":" ++ Numeral.padded 2 (seconds / 60 % 60) ++ ":" ++
    Numeral.padded 2 (seconds % 60) ++ "." ++ Numeral.padded 3 (milliseconds % 1000)

structure Record where
  time : Nat
  level : Level
  target : String
  message : String
  span : Option Nat
  deriving DecidableEq, Repr

namespace Record

def inSpan (record : Record) (span : Nat) : Record :=
  { record with span := some span }

def format (record : Record) : String :=
  let span :=
    match record.span with
    | some number => " [span=" ++ toString number ++ "]"
    | none => ""
  "[" ++ clockText record.time ++ "] " ++ record.level.name ++ " " ++ record.target ++ span ++ ": " ++
    record.message

end Record

end Log

end Bootstrap
