import Mathlib.Data.List.Nodup
import Bootstrap.External.Engine
import Bootstrap.Proofs.JoinedPaths

/-!
The names of engines' files: no two of a family are the same, and below a directory each leads to a
place of its own, whatever the text of the directory's path.
-/

namespace Bootstrap

/-- A text that is one segment of a path and names something in a directory. -/
structure Path.IsName (name : String) : Prop where
  nonempty : name.toList ≠ []
  noSlash : '/' ∉ name.toList
  noNul : '\x00' ∉ name.toList
  noDot : name ≠ "."
  noDots : name ≠ ".."

section paths

variable {name : String} (isName : Path.IsName name) (base : Path)

include isName

theorem Path.IsName.relative : Path.isAbsolute ⟨name⟩ = false := by
  obtain ⟨first, rest, shape⟩ := List.exists_cons_of_ne_nil isName.nonempty
  have noSlash := isName.noSlash
  simp only [shape, List.mem_cons, not_or] at noSlash
  simp [Path.isAbsolute, shape, Ne.symm noSlash.1]

theorem Path.IsName.segments_join :
    Disk.segments (base.join ⟨name⟩) = Disk.segments base ++ [name] := by
  have nonempty := isName.nonempty
  have kept : (!name.isEmpty) = true := by simpa using nonempty
  have single := Text.splitChars_single isName.noSlash
  rw [Path.segments_join base isName.relative]
  simp [Disk.segments, Text.split, single, kept]

theorem Path.IsName.endsInSlash_join : Disk.endsInSlash (base.join ⟨name⟩) = false := by
  have final : (base.text.toList ++ (base.gap ++ name.toList)).getLast? = name.toList.getLast? := by
    rw [← List.append_assoc, List.getLast?_append, List.getLast?_eq_some_getLast isName.nonempty]
    rfl
  simp only [Disk.endsInSlash, toList_join base isName.relative, final, decide_eq_false_iff_not]
  exact fun last => isName.noSlash (List.mem_of_getLast? last)

theorem Path.IsName.contains_join :
    (base.join ⟨name⟩).text.toList.contains '\x00' = base.text.toList.contains '\x00' := by
  have noNul := isName.noNul
  rw [toList_join base isName.relative, gap]
  split <;> simp [noNul]

theorem Path.IsName.nonempty_join : (base.join ⟨name⟩).text.isEmpty = false := by
  have nonempty := isName.nonempty
  have : (base.join ⟨name⟩).text.toList ≠ [] := by
    rw [toList_join base isName.relative]
    simp [nonempty]
  simpa using this

theorem Path.IsName.join_inj {other : String} (isOther : Path.IsName other)
    (same : base.join ⟨name⟩ = base.join ⟨other⟩) : name = other := by
  have texts := congrArg (fun path => path.text.toList) same
  simp only [toList_join base isName.relative, toList_join base isOther.relative,
    List.append_cancel_left_eq] at texts
  exact String.toList_injective texts

end paths

namespace Disk

theorem walk_append (disk : Disk) (location : Location) (front : List String) (name : String) :
    disk.walk location (front ++ [name]) =
      (disk.walk location front).bind fun directory => disk.walk directory [name] := by
  induction front generalizing location with
  | nil => rfl
  | cons segment front ih =>
      simp only [List.cons_append, walk]
      cases disk.node? location with
      | none => rfl
      | some node =>
          cases node with
          | directory => exact ih _
          | _ => rfl

/-- The directory that a path leads to: one more step is taken there, and stays where it is. -/
def entrance (disk : Disk) (path : Path) : Except OsError Location :=
  if path.text.toList.contains '\x00' then .error .nulByte
  else disk.walk (if path.isAbsolute then [] else disk.here) (segments path ++ ["."])

theorem locate_join (disk : Disk) (base : Path) {name : String} (isName : Path.IsName name) :
    disk.locate (base.join ⟨name⟩) =
      (disk.entrance base).map fun directory => directory ++ [name] := by
  simp only [locate, entrance, isName.contains_join, isName.nonempty_join,
    Path.isAbsolute_join base isName.relative, isName.segments_join, Bool.false_eq_true, if_false]
  split
  · rfl
  · rw [walk_append, walk_append]
    cases disk.walk (if base.isAbsolute = true then [] else disk.here) (segments base) with
    | error error => rfl
    | ok location =>
        simp only [Except.bind, walk]
        cases disk.node? location with
        | none => rfl
        | some node =>
            cases node with
            | directory => simp [follow, isName.noDot, isName.noDots, Except.map]
            | _ => rfl

end Disk

namespace External

def endings : List String :=
  [".mod", ".in", ".result"]

def fileName (family number : Nat) (ending : String) : String :=
  Engine.stem family number ++ ending

def scratchPath (runner : Runner) (number : Nat) (ending : String) : Path :=
  runner.workDir.join ⟨fileName runner.family number ending⟩

def Engine.paths (engine : Engine) : List Path :=
  [engine.modulePath, engine.inputPath, engine.resultPath]

theorem paths_numbered (runner : Runner) (number : Nat) :
    (Engine.numbered runner number).paths = endings.map (scratchPath runner number) := rfl

theorem toList_fileName (family number : Nat) (ending : String) :
    (fileName family number ending).toList =
      ("engine-".toList ++ Nat.toDigits 10 family ++ ['-']) ++
        (Nat.toDigits 10 number ++ ending.toList) := by
  simp [fileName, Engine.stem]

theorem isDigit_of_toDigits {value : Nat} {character : Char}
    (member : character ∈ Nat.toDigits 10 value) : character.isDigit = true :=
  Nat.isDigit_of_mem_toDigits (by decide) (by decide) member

theorem fileName_inj {family number other : Nat} {ending final : String} (known : ending ∈ endings)
    (listed : final ∈ endings)
    (same : fileName family number ending = fileName family other final) :
    number = other ∧ ending = final := by
  have starts : ∀ ending ∈ endings, ∃ rest, ending.toList = '.' :: rest := by
    simp [endings]
  obtain ⟨rest, shape⟩ := starts ending known
  obtain ⟨others, shapeOther⟩ := starts final listed
  have chars := congrArg String.toList same
  rw [toList_fileName, toList_fileName, List.append_cancel_left_eq, shape, shapeOther] at chars
  -- The number is read off as the digits at the front: every ending starts with a dot.
  have digits {value : Nat} {rest : List Char} :
      (Nat.toDigits 10 value ++ '.' :: rest).takeWhile Char.isDigit = Nat.toDigits 10 value := by
    rw [List.takeWhile_append_of_pos fun _ member => isDigit_of_toDigits member]
    simp [Char.isDigit]
  have numerals : Nat.toDigits 10 number = Nat.toDigits 10 other := by
    rw [← digits, chars, digits]
  constructor
  · rw [← Nat.ofDigitChars_ten_toDigits (n := number), numerals, Nat.ofDigitChars_ten_toDigits]
  · rw [numerals, List.append_cancel_left_eq, ← shape, ← shapeOther] at chars
    exact String.toList_injective chars

theorem isName_fileName (family number : Nat) {ending : String} (known : ending ∈ endings) :
    Path.IsName (fileName family number ending) := by
  have noDigit (character : Char) (other : character.isDigit = false) (value : Nat) :
      character ∉ Nat.toDigits 10 value := by
    intro member
    rw [isDigit_of_toDigits member] at other
    contradiction
  have shape := toList_fileName family number ending
  have long : 2 < (fileName family number ending).toList.length := by
    rw [shape]
    simp
  have clean : ∀ ending ∈ endings, '/' ∉ ending.toList ∧ '\x00' ∉ ending.toList := by
    simp [endings]
  constructor
  · rintro empty
    simp [empty] at long
  · rw [shape]
    simp [noDigit '/' rfl, (clean ending known).1]
  · rw [shape]
    simp [noDigit '\x00' rfl, (clean ending known).2]
  · intro dot
    simp [dot] at long
  · intro dots
    simp [dots] at long

theorem scratchPath_inj {runner : Runner} {number other : Nat} {ending final : String}
    (known : ending ∈ endings) (listed : final ∈ endings)
    (same : scratchPath runner number ending = scratchPath runner other final) :
    number = other ∧ ending = final :=
  fileName_inj known listed
    ((isName_fileName _ _ known).join_inj _ (isName_fileName _ _ listed) same)

theorem paths_nodup (runner : Runner) {number other : Nat} (different : number ≠ other) :
    ((Engine.numbered runner number).paths ++ (Engine.numbered runner other).paths).Nodup := by
  have each (number : Nat) : (endings.map (scratchPath runner number)).Nodup :=
    List.Nodup.map_on (fun _ known _ listed same => (scratchPath_inj known listed same).2)
      (by decide)
  rw [paths_numbered, paths_numbered, List.nodup_append]
  refine ⟨each number, each other, fun path mine theirs own same => ?_⟩
  obtain ⟨ending, known, rfl⟩ := List.mem_map.mp mine
  obtain ⟨final, listed, rfl⟩ := List.mem_map.mp own
  exact different (scratchPath_inj known listed same).1

theorem locate_scratchPath (disk : Disk) (runner : Runner) (number : Nat) {ending : String}
    (known : ending ∈ endings) :
    disk.locate (scratchPath runner number ending) =
      (disk.entrance runner.workDir).map fun directory =>
        directory ++ [fileName runner.family number ending] :=
  disk.locate_join _ (isName_fileName _ _ known)

theorem endsInSlash_scratchPath (runner : Runner) (number : Nat) {ending : String}
    (known : ending ∈ endings) : Disk.endsInSlash (scratchPath runner number ending) = false :=
  (isName_fileName _ _ known).endsInSlash_join _

end External

end Bootstrap
