import Bootstrap.StandIns.Shell.Quoted

/-!
Values of options that choose from a list of words, which may be cut short.
-/

namespace Bootstrap

namespace Shell

/-- The words that a value may be, each line with words of one meaning. -/
structure Choice where
  subject : String
  lines : List (List String)
  deriving DecidableEq, Repr

namespace Choice

def curlyText (text : String) : String :=
  "‘" ++ text ++ "’"

def complaint (choice : Choice) (kind : String) (value : Octets) : String :=
  kind ++ " argument " ++ Quoted.curly value ++ " for " ++ curlyText choice.subject ++
    "\nValid arguments are:" ++
    String.join (choice.lines.map fun line => "\n  - " ++ ", ".intercalate (line.map curlyText))

def meaning (choice : Choice) (value : Octets) : Except String String :=
  let fits := fun (word : String) => value.isPrefixOf word.toList
  match choice.lines.filter fun line => line.any fun word => word.toList = value with
  | (word :: _) :: _ => .ok word
  | _ =>
      match choice.lines.filter fun line => line.any fits with
      | [word :: _] => .ok word
      | [] => .error (choice.complaint "invalid" value)
      | _ => .error (choice.complaint "ambiguous" value)

end Choice

end Shell

end Bootstrap
