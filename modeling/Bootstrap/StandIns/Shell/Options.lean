import Bootstrap.StandIns.Shell.Bench
import Bootstrap.StandIns.Shell.Quoted

/-!
Options of the tools: letters that may stand together, names that may be cut short, and values.
-/

namespace Bootstrap

namespace Shell

inductive Arity where
  | none
  | required
  | optional
  deriving DecidableEq, Repr

/-- An option by its letter, its name, or both; `key` is what the tool knows it by. -/
structure OptionForm where
  key : String
  letter : Option Char
  name : Option String
  arity : Arity
  deriving DecidableEq, Repr

structure Given where
  key : String
  value : Option Octets
  deriving DecidableEq, Repr

/-- The words of a tool sorted out: the options before any trouble, and the operands. -/
structure Sorted where
  given : List Given
  operands : List Octets
  trouble : Option String
  deriving DecidableEq, Repr

namespace OptionForm

def flag (letter : Char) (name : String) : OptionForm :=
  ⟨name, some letter, some name, .none⟩

def letterOnly (letter : Char) : OptionForm :=
  ⟨String.ofList [letter], some letter, none, .none⟩

def nameOnly (name : String) : OptionForm :=
  ⟨name, none, some name, .none⟩

def valued (letter : Char) (name : String) : OptionForm :=
  ⟨name, some letter, some name, .required⟩

def standard : List OptionForm :=
  [nameOnly "help", nameOnly "version"]

end OptionForm

namespace Sorted

def empty : Sorted :=
  ⟨[], [], none⟩

def withGiven (sorted : Sorted) (given : Given) : Sorted :=
  { sorted with given := given :: sorted.given }

def withOperand (sorted : Sorted) (operand : Octets) : Sorted :=
  { sorted with operands := operand :: sorted.operands }

def failing (text : String) : Sorted :=
  ⟨[], [], some text⟩

def quote (text : String) : String :=
  "'" ++ text ++ "'"

/-- The forms that a name may mean: the one of that name, or all that it begins. -/
def candidates (forms : List OptionForm) (name : String) : List OptionForm :=
  match forms.filter fun form => form.name = some name with
  | [] =>
      forms.filter fun form =>
        match form.name with
        | some full => name.toList.isPrefixOf full.toList
        | none => false
  | exact => exact

def longName (form : OptionForm) : String :=
  "--" ++ form.name.getD ""

def letters (forms : List OptionForm) : List Char → Except String (List Given × Option OptionForm)
  | [] => .ok ([], none)
  | letter :: rest =>
      match forms.find? fun form => form.letter = some letter with
      | none => .error ("invalid option -- " ++ quote (Octets.toText [letter]))
      | some form =>
          match form.arity with
          | .none =>
              (letters forms rest).map fun (given, open') => (⟨form.key, none⟩ :: given, open')
          | .optional => .ok ([⟨form.key, if rest.isEmpty then none else some rest⟩], none)
          | .required =>
              if rest.isEmpty then .ok ([], some form) else .ok ([⟨form.key, some rest⟩], none)

def goodLetters (forms : List OptionForm) : List Char → List Given
  | [] => []
  | letter :: rest =>
      match forms.find? fun form => form.letter = some letter with
      | none => []
      | some form => ⟨form.key, none⟩ :: goodLetters forms rest

def long (forms : List OptionForm) (word : Octets) : Except String (OptionForm × Option Octets) :=
  let name := Octets.toText (word.takeWhile (· ≠ '='))
  let value :=
    match word.dropWhile (· ≠ '=') with
    | _ :: rest => some rest
    | [] => none
  match candidates forms name with
  | [] => .error ("unrecognized option " ++ quote ("--" ++ Octets.toText word))
  | [form] =>
      match form.arity, value with
      | .none, some _ => .error ("option " ++ quote (longName form) ++ " doesn't allow an argument")
      | _, _ => .ok (form, value)
  | form :: others =>
      if others.all fun other => other.key = form.key ∧ other.arity = form.arity then
        .ok (form, value)
      else
        .error ("option " ++ quote ("--" ++ Octets.toText word) ++ " is ambiguous; possibilities:" ++
          String.join ((form :: others).map fun each => " " ++ quote (longName each)))

structure Awaited where
  form : OptionForm
  named : Bool
  deriving DecidableEq, Repr

def Awaited.trouble (awaited : Awaited) : String :=
  if awaited.named then "option " ++ quote (longName awaited.form) ++ " requires an argument"
  else "option requires an argument -- " ++ quote (Octets.toText awaited.form.letter.toList)

/-- Sorts out words; behind the first operand options count only where they may be mixed. -/
def sortFrom (forms : List OptionForm) (mixed : Bool) : Option Awaited → List Octets → Sorted
  | none, [] => empty
  | some awaited, [] => failing awaited.trouble
  | some awaited, word :: rest =>
      (sortFrom forms mixed none rest).withGiven ⟨awaited.form.key, some word⟩
  | none, word :: rest =>
      match word with
      | ['-', '-'] => ⟨[], rest, none⟩
      | '-' :: '-' :: name =>
          match long forms name with
          | .error text => failing text
          | .ok (form, value) =>
              if form.arity = .required ∧ value.isNone then
                sortFrom forms mixed (some ⟨form, true⟩) rest
              else (sortFrom forms mixed none rest).withGiven ⟨form.key, value⟩
      | '-' :: letter :: more =>
          match letters forms (letter :: more) with
          | .error text => { failing text with given := goodLetters forms (letter :: more) }
          | .ok (given, open') =>
              given.foldr (fun each sorted => sorted.withGiven each)
                (sortFrom forms mixed (open'.map fun form => ⟨form, false⟩) rest)
      | _ =>
          if mixed then (sortFrom forms mixed none rest).withOperand word
          else ⟨[], word :: rest, none⟩

def sort (forms : List OptionForm) (mixed : Bool) (words : List Octets) : Sorted :=
  sortFrom forms mixed none words

def has (sorted : Sorted) (key : String) : Bool :=
  sorted.given.any fun given => given.key = key

def valueOf? (sorted : Sorted) (key : String) : Option Octets :=
  (sorted.given.reverse.find? fun given => given.key = key).bind Given.value

end Sorted

namespace Tool

def pointToHelp (tool : String) : Tool Nat := do
  writeText 2 ("Try '" ++ tool ++ " --help' for more information.\n")
  return 1

def misuse (tool text : String) : Tool Nat := do
  complain tool text
  pointToHelp tool

end Tool

end Shell

end Bootstrap
