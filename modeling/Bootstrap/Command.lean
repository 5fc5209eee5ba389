import Bootstrap.Text.Blank

/-!
Command lines with placeholders in braces, which are filled in before the command is run.
-/

namespace Bootstrap

structure Command where
  program : String
  args : List String
  deriving DecidableEq, Repr

namespace Command

/-- A command needs a program with a nonempty name. -/
def ofWords? : List String → Option Command
  | [] => none
  | program :: args => if program.isEmpty then none else some ⟨program, args⟩

def placeholder (name : String) : String :=
  "\x7b" ++ name ++ "\x7d"

/-- Replaces placeholders inside a word, one name after the other. -/
def fillInside (word : String) (values : List (String × String)) : String :=
  values.foldl (fun text value => Text.replace text (placeholder value.1) value.2) word

/-- A word that is one placeholder becomes its value as it stands; unknown names stay. -/
def fillWord (values : List (String × String)) (word : String) : String :=
  match values.find? fun value => word = placeholder value.1 with
  | some value => value.2
  | none => fillInside word values

def filledArgs (command : Command) (values : List (String × String)) : List String :=
  command.args.map (fillWord values)

def filled (command : Command) (values : List (String × String)) : List String :=
  command.program :: command.filledArgs values

/-- A word as a process takes it: one with a zero character cannot be handed over, and a sign stands
in for it. -/
def handedOver (word : String) : String :=
  if word.toList.contains '\x00' then "<string-with-nul>" else word

def prepared (command : Command) (values : List (String × String)) : List String :=
  (command.filled values).map handedOver

def line (command : Command) (values : List (String × String)) : String :=
  command.program ++ " " ++ " ".intercalate (command.filledArgs values)

end Command

end Bootstrap
