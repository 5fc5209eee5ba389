import Bootstrap.StandIns.Shell.State

/-!
Options of the commands that a shell knows itself: letters behind a dash, some of them with values.
-/

namespace Bootstrap

namespace Shell

structure ShortOption where
  letter : Char
  value : Octets
  deriving DecidableEq, Repr

namespace ShortOption

def ofWord (plain valued : List Char) : List Char → Except Char (List ShortOption × Option Char)
  | [] => .ok ([], none)
  | letter :: rest =>
      if valued.contains letter then
        if rest.isEmpty then .ok ([], some letter) else .ok ([⟨letter, rest⟩], none)
      else if plain.contains letter then
        (ofWord plain valued rest).map fun (others, waiting) => (⟨letter, []⟩ :: others, waiting)
      else .error letter

def ofWords (plain valued : List Char) : List Octets → Exec (List ShortOption × List Octets)
  | [] => return ([], [])
  | ['-'] :: rest => return ([], ['-'] :: rest)
  | ['-', '-'] :: rest => return ([], rest)
  | ('-' :: letters) :: rest => do
      match ofWord plain valued letters with
      | .error letter => Exec.raise ("Illegal option -".toList ++ [letter])
      | .ok (found, none) =>
          let (others, words) ← ofWords plain valued rest
          return (found ++ others, words)
      | .ok (found, some letter) =>
          match rest with
          | [] => Exec.raise ("No arg for -".toList ++ [letter] ++ " option".toList)
          | value :: rest =>
              let (others, words) ← ofWords plain valued rest
              return (found ++ ⟨letter, value⟩ :: others, words)
  | word :: rest => return ([], word :: rest)

def none' (words : List Octets) : Exec (List Octets) := do
  return (← ofWords [] [] words).2

def has (letter : Char) (letters : List ShortOption) : Bool :=
  letters.any fun given => given.letter = letter

end ShortOption

end Shell

end Bootstrap
