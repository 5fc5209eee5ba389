import Bootstrap.StandIns.Shell.Options

/-!
Tools that make, move and remove files and directories.
-/

namespace Bootstrap

namespace Shell

namespace Files

def tell (tool text : String) (error : OsError) : Tool Nat := do
  Tool.complain tool (text ++ ": " ++ error.reason)
  return 1

def forEach (step : Octets → Tool Nat) : List Octets → Tool Nat
  | [] => return 0
  | operand :: rest => do
      let first ← step operand
      return max first (← forEach step rest)

def overOperands (tool missing : String) (forms : List OptionForm) (words : List Octets)
    (mayLack : Sorted → Bool) (step : Sorted → Octets → Tool Nat) : Tool Nat :=
  let sorted := Sorted.sort (OptionForm.standard ++ forms) true words
  match sorted.trouble with
  | some trouble => Tool.misuse tool trouble
  | none =>
      if sorted.operands.isEmpty then
        if mayLack sorted then return 0 else Tool.misuse tool missing
      else forEach (step sorted) sorted.operands

def tellDone (sorted : Sorted) (text : String) : Tool Nat := do
  if sorted.has "verbose" then Tool.writeText 1 (text ++ "\n")
  return 0

def landing (disk : Disk) (source target : Octets) : Octets :=
  if disk.isDir (Tool.path target) then
    Octets.ofText ((Tool.path target).join ⟨(Tool.path source).fileName?.getD "."⟩).text
  else target

def sameFile (disk : Disk) (source target : Path) : Bool :=
  match disk.look source, disk.look target with
  | .ok (first, _), .ok (second, _) => first = second
  | _, _ => false

def moveForms : List OptionForm :=
  [OptionForm.flag 'f' "force", OptionForm.flag 'i' "interactive", OptionForm.flag 'n' "no-clobber",
    OptionForm.flag 'u' "update", OptionForm.flag 'v' "verbose",
    OptionForm.flag 'T' "no-target-directory", OptionForm.valued 't' "target-directory"]

def moveTo (sorted : Sorted) (goal source : Octets) : Tool Nat := do
  let bench ← get
  let (shownSource, shownGoal) := (Quoted.always source, Quoted.always goal)
  match bench.disk.look (Tool.path source) with
  | .error error => tell "mv" ("cannot stat " ++ shownSource) error
  | .ok (location, _) =>
      if sameFile bench.disk (Tool.path source) (Tool.path goal) then
        Tool.complain "mv" (shownSource ++ " and " ++ shownGoal ++ " are the same file")
        return 1
      else if sorted.has "no-clobber" ∧ bench.disk.contains (Tool.path goal) then return 0
      else
        match bench.disk.locate (Tool.path goal) with
        | .error error => tell "mv" ("cannot move " ++ shownSource ++ " to " ++ shownGoal) error
        | .ok place =>
            if location.isPrefixOf place then
              Tool.complain "mv" ("cannot move " ++ shownSource ++
                " to a subdirectory of itself, " ++ shownGoal)
              return 1
            else
              set { bench with disk := bench.disk.moveAt location place }
              tellDone sorted ("renamed " ++ shownSource ++ " -> " ++ shownGoal)

def moveInto (sorted : Sorted) (directory source : Octets) : Tool Nat := do
  moveTo sorted (landing (← get).disk source directory) source

def move (words : List Octets) : Tool Nat := do
  let sorted := Sorted.sort (OptionForm.standard ++ moveForms) true words
  let disk := (← get).disk
  match sorted.trouble, sorted.valueOf? "target-directory", sorted.operands with
  | some trouble, _, _ => Tool.misuse "mv" trouble
  | none, _, [] => Tool.misuse "mv" "missing file operand"
  | none, some directory, sources => forEach (moveInto sorted directory) sources
  | none, none, [single] =>
      Tool.misuse "mv" ("missing destination file operand after " ++ Quoted.always single)
  | none, none, [source, target] =>
      if sorted.has "no-target-directory" then moveTo sorted target source
      else moveInto sorted target source
  | none, none, several =>
      let target := several.getLast?.getD []
      let shown := "target " ++ Quoted.always target
      if disk.isDir (Tool.path target) then forEach (moveInto sorted target) several.dropLast
      else tell "mv" shown (if disk.contains (Tool.path target) then .notADirectory else .noEntry)

def removeForms : List OptionForm :=
  [OptionForm.flag 'f' "force", OptionForm.flag 'r' "recursive",
    ⟨"recursive", some 'R', none, .none⟩, OptionForm.flag 'd' "dir", OptionForm.flag 'v' "verbose",
    OptionForm.letterOnly 'i', OptionForm.letterOnly 'I']

def removeOne (sorted : Sorted) (operand : Octets) : Tool Nat := do
  let bench ← get
  let shown := Quoted.always operand
  let path := Tool.path operand
  match bench.disk.look path with
  | .error error =>
      if sorted.has "force" ∧ (error = .noEntry ∨ error = .notADirectory) then return 0
      else tell "rm" ("cannot remove " ++ shown) error
  | .ok (location, .directory) =>
      if sorted.has "recursive" then
        if (Disk.finalName? path).isNone then
          Tool.complain "rm" ("refusing to remove '.' or '..' directory: skipping " ++ shown)
          return 1
        else
          set { bench with disk := bench.disk.prune location }
          tellDone sorted ("removed directory " ++ shown)
      else if sorted.has "dir" then
        match ← Tool.onDisk fun disk => disk.removeDir path with
        | none => tellDone sorted ("removed directory " ++ shown)
        | some error => tell "rm" ("cannot remove " ++ shown) error
      else tell "rm" ("cannot remove " ++ shown) .isADirectory
  | .ok (location, _) =>
      set { bench with disk := bench.disk.discard location }
      tellDone sorted ("removed " ++ shown)

def remove (words : List Octets) : Tool Nat :=
  overOperands "rm" "missing operand" removeForms words (fun sorted => sorted.has "force") removeOne

def makeForms : List OptionForm :=
  [OptionForm.flag 'p' "parents", OptionForm.valued 'm' "mode", OptionForm.flag 'v' "verbose"]

def makeOne (sorted : Sorted) (operand : Octets) : Tool Nat := do
  let shown := Quoted.curly operand
  let path := Tool.path operand
  let made :=
    if sorted.has "parents" then Tool.performOnDisk fun disk => disk.makeDirs path
    else Tool.onDisk fun disk => disk.makeDir path
  match ← made with
  | none => tellDone sorted ("mkdir: created directory " ++ shown)
  | some error => tell "mkdir" ("cannot create directory " ++ shown) error

def makeDirs (words : List Octets) : Tool Nat :=
  overOperands "mkdir" "missing operand" makeForms words (fun _ => false) makeOne

def removeDirForms : List OptionForm :=
  [OptionForm.flag 'v' "verbose", OptionForm.nameOnly "ignore-fail-on-non-empty"]

def removeDirOne (sorted : Sorted) (operand : Octets) : Tool Nat := do
  let shown := Quoted.always operand
  match ← Tool.onDisk fun disk => disk.removeDir (Tool.path operand) with
  | none => tellDone sorted ("rmdir: removing directory, " ++ shown)
  | some error =>
      if error = .notEmpty ∧ sorted.has "ignore-fail-on-non-empty" then return 0
      else tell "rmdir" ("failed to remove " ++ shown) error

def removeDirs (words : List Octets) : Tool Nat :=
  overOperands "rmdir" "missing operand" removeDirForms words (fun _ => false) removeDirOne

def touchForms : List OptionForm :=
  [OptionForm.flag 'c' "no-create", OptionForm.letterOnly 'a', OptionForm.letterOnly 'm',
    OptionForm.letterOnly 'f', OptionForm.valued 'd' "date", OptionForm.valued 'r' "reference",
    ⟨"time", some 't', none, .required⟩]

def touchOne (sorted : Sorted) (operand : Octets) : Tool Nat := do
  if (← get).disk.contains (Tool.path operand) ∨ sorted.has "no-create" then return 0
  else
    match ← Tool.onDisk fun disk => disk.write (Tool.path operand) [] with
    | none => return 0
    | some error => tell "touch" ("cannot touch " ++ Quoted.always operand) error

def touch (words : List Octets) : Tool Nat :=
  overOperands "touch" "missing file operand" touchForms words (fun _ => false) touchOne

end Files

end Shell

end Bootstrap
