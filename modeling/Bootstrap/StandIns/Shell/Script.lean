import Bootstrap.StandIns.Shell.Octets

/-!
Shell scripts: words with their expansions, redirections, and commands.
-/

namespace Bootstrap

namespace Shell

/-- What stands after a parameter's name inside braces. -/
inductive Amendment where
  | whenUnset
  | assignUnset
  | failUnset
  | whenSet
  | dropShortestTail
  | dropLongestTail
  | dropShortestHead
  | dropLongestHead
  deriving DecidableEq, Repr

/-- How a file is opened; only `output` respects a shell that overwrites nothing. -/
inductive Opening where
  | input
  | both
  | output
  | overwrite
  | append
  deriving DecidableEq, Repr

mutual

/-- A part of a word; `quoted` says that its value is neither split nor matched against names. A
mark is a quote, which makes a word even out of nothing. -/
inductive Piece where
  | text (value : Octets) (quoted : Bool)
  | mark
  | parameter (name : Octets) (quoted : Bool)
  | amended (name : Octets) (amendment : Amendment) (orEmpty : Bool) (word : List Piece)
      (quoted : Bool)
  | length (name : Octets) (quoted : Bool)
  | arithmetic (expression : List Piece) (quoted : Bool)
  | output (script : Command) (quoted : Bool)
  | meaningless

/-- A here-document is known by the number that it had when it was read. -/
inductive Redirect where
  | file (descriptor : Nat) (opening : Opening) (word : List Piece)
  | duplicate (descriptor : Nat) (word : List Piece)
  | document (descriptor : Nat) (number : Nat)

inductive Command where
  | simple (line : Nat) (assignments : List (Octets × List Piece)) (words : List (List Piece))
      (redirects : List Redirect)
  | redirected (line : Nat) (body : Command) (redirects : List Redirect)
  | subshell (line : Nat) (body : Command) (redirects : List Redirect)
  | choose (condition body : Command) (otherwise : Option Command)
  | loop (expected : Bool) (condition body : Command)
  | each (line : Nat) (name : Octets) (words : Option (List (List Piece))) (body : Command)
  | select (line : Nat) (word : List Piece) (branches : List (List (List Piece) × Command))
  | define (line : Nat) (name : Octets) (body : Command)
  | pipeline (stages : List Command)
  | negate (body : Command)
  | both (first second : Command)
  | either (first second : Command)
  | sequence (commands : List Command)
  | background (line : Nat) (body : Command)

end

end Shell

end Bootstrap
