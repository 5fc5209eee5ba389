import Bootstrap.StandIns.Shell.Script

/-!
Tokens of shell scripts, and the names that complaints call them by.
-/

namespace Bootstrap

namespace Shell

/-- A word as it is read; `quoted` says that a quote stood somewhere in it. -/
structure Word where
  pieces : List Piece
  quoted : Bool

namespace Word

def plain? (word : Word) : Option Octets :=
  match word.quoted, word.pieces with
  | false, [.text value false] => some value
  | _, _ => none

end Word

inductive Purpose where
  | file (opening : Opening)
  | duplicate
  | document (stripsTabs : Bool)
  deriving DecidableEq, Repr

inductive Token where
  | endOfFile
  | newline
  | sign (text : String)
  | redirection (descriptor : Nat) (purpose : Purpose)
  | word (word : Word)
  | keyword (name : String)

namespace Token

def keywords : List String :=
  ["!", "case", "do", "done", "elif", "else", "esac", "fi", "for", "if", "in", "then", "until",
    "while", "\x7b", "\x7d"]

def isKeyword (text : Octets) : Bool :=
  keywords.any fun present => present.toList = text

def recognised (token : Token) : Token :=
  match token with
  | .word found =>
      match found.plain? with
      | some text => if isKeyword text then .keyword (String.ofList text) else .word found
      | none => .word found
  | other => other

def isSign (text : String) : Token → Bool
  | .sign present => present = text
  | _ => false

def isKeywordNamed (name : String) : Token → Bool
  | .keyword present => present = name
  | _ => false

def closers : List String :=
  ["do", "done", "elif", "else", "esac", "fi", "then", "\x7d"]

def closesList : Token → Bool
  | .endOfFile => true
  | .sign text => text = ")" || text = ";;"
  | .keyword present => closers.contains present
  | _ => false

def quotedName (text : String) : String :=
  "\"" ++ text ++ "\""

def name : Token → String
  | .endOfFile => "end of file"
  | .newline => "newline"
  | .sign text => quotedName text
  | .redirection _ _ => "redirection"
  | .word _ => "word"
  | .keyword present => quotedName present

end Token

structure SyntaxError where
  line : Nat
  left : Nat
  text : String
  deriving DecidableEq, Repr

end Shell

end Bootstrap
