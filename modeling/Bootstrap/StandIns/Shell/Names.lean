import Bootstrap.StandIns.Shell.Options

/-!
Tools for the parts of a path.
-/

namespace Bootstrap

namespace Shell

namespace Names

def trimSlashes (path : Octets) : Octets :=
  (path.reverse.dropWhile (· = '/')).reverse

/-- The part behind the last slash; a path of slashes alone is the root. -/
def lastPart (path : Octets) : Octets :=
  let trimmed := trimSlashes path
  if trimmed.isEmpty then path.take 1 else (trimmed.reverse.takeWhile (· ≠ '/')).reverse

def firstPart (path : Octets) : Octets :=
  let trimmed := trimSlashes path
  if trimmed.contains '/' then
    let above := trimSlashes (trimmed.reverse.dropWhile (· ≠ '/')).reverse
    if above.isEmpty then ['/'] else above
  else if trimmed.isEmpty ∧ !path.isEmpty then ['/'] else ['.']

def withoutEnding (ending name : Octets) : Octets :=
  if ending.length < name.length ∧ ending.reverse.isPrefixOf name.reverse then
    name.take (name.length - ending.length)
  else name

def writeAll (ending : Octets) (names : List Octets) : Tool Nat := do
  Tool.write 1 (names.flatMap fun name => name ++ ending)
  return 0

def ending (sorted : Sorted) : Octets :=
  if sorted.has "zero" then ['\x00'] else ['\n']

def baseForms : List OptionForm :=
  [OptionForm.flag 'a' "multiple", OptionForm.valued 's' "suffix", OptionForm.flag 'z' "zero"]

def baseName (words : List Octets) : Tool Nat :=
  let sorted := Sorted.sort (OptionForm.standard ++ baseForms) false words
  let dropped := sorted.valueOf? "suffix"
  let shorten := fun (tail name : Octets) => withoutEnding tail (lastPart name)
  match sorted.trouble, sorted.operands with
  | some trouble, _ => Tool.misuse "basename" trouble
  | none, [] => Tool.misuse "basename" "missing operand"
  | none, operands =>
      if sorted.has "multiple" ∨ dropped.isSome then
        writeAll (ending sorted) (operands.map (shorten (dropped.getD [])))
      else
        match operands with
        | [name, tail] => writeAll (ending sorted) [shorten tail name]
        | _ :: _ :: extra :: _ =>
            Tool.misuse "basename" ("extra operand " ++ Quoted.always extra)
        | others => writeAll (ending sorted) (others.map (shorten []))

def directoryName (words : List Octets) : Tool Nat :=
  let sorted := Sorted.sort (OptionForm.standard ++ [OptionForm.flag 'z' "zero"]) true words
  match sorted.trouble, sorted.operands with
  | some trouble, _ => Tool.misuse "dirname" trouble
  | none, [] => Tool.misuse "dirname" "missing operand"
  | none, operands => writeAll (ending sorted) (operands.map firstPart)

end Names

end Shell

end Bootstrap
