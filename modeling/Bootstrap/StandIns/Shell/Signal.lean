import Bootstrap.StandIns.Shell.Octets
import Bootstrap.Text.Numeral

/-!
Signals by number and name, and what a shell says of a child that one has ended.
-/

namespace Bootstrap

namespace Shell

namespace Signal

def standardNames : List String :=
  ["HUP", "INT", "QUIT", "ILL", "TRAP", "ABRT", "BUS", "FPE", "KILL", "USR1", "SEGV", "USR2", "PIPE",
    "ALRM", "TERM", "16", "CHLD", "CONT", "STOP", "TSTP", "TTIN", "TTOU", "URG", "XCPU", "XFSZ",
    "VTALRM", "PROF", "WINCH", "IO", "PWR", "SYS", "32", "33", "RTMIN"]

def realTimeNames : List String :=
  ((List.range 15).map fun offset => "RTMIN+" ++ toString (offset + 1)) ++
    ((List.range 14).map fun offset => "RTMAX-" ++ toString (14 - offset)) ++ ["RTMAX"]

def names : List String :=
  standardNames ++ realTimeNames

/-- The end of a shell counts as signal zero where actions are set. -/
def nameOf (number : Nat) : String :=
  if number = 0 then "EXIT" else (names[number - 1]?).getD (toString number)

def number? (text : Octets) : Option Nat :=
  match Numeral.natural? text with
  | some number => if number ≤ names.length then some number else none
  | none =>
      let name := String.ofList (text.map Char.toUpper)
      if name = "EXIT" then some 0
      else (names.idxOf? name).map (· + 1)

def descriptions : List (Nat × String) :=
  [(1, "Hangup"), (3, "Quit"), (4, "Illegal instruction"), (5, "Trace/breakpoint trap"),
    (6, "Aborted"), (7, "Bus error"), (8, "Floating point exception"), (9, "Killed"),
    (10, "User defined signal 1"), (11, "Segmentation fault"), (12, "User defined signal 2"),
    (14, "Alarm clock"), (15, "Terminated"), (16, "Stack fault"),
    (24, "CPU time limit exceeded"), (25, "File size limit exceeded"),
    (26, "Virtual timer expired"), (27, "Profiling timer expired"), (29, "I/O possible"),
    (30, "Power failure"), (31, "Bad system call"), (32, "Unknown signal 32"),
    (33, "Unknown signal 33")]

/-- An interrupted child and one that nobody reads from are not spoken of. -/
def description? (number : Nat) : Option String :=
  if 34 ≤ number then some ("Real-time signal " ++ toString (number - 34))
  else (descriptions.find? fun entry => entry.1 = number).map Prod.snd

def isHarmless (number : Nat) : Bool :=
  [0, 17, 18, 23, 28].contains number

end Signal

end Shell

end Bootstrap
