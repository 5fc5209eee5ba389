import Bootstrap.Files.Map
import Mathlib.Data.List.DropRight

/-!
Normal paths, and that a file map stores nothing else whatever was written and removed before.
-/

namespace Bootstrap

namespace FileMap

inductive Step where
  | write (path : Path) (content : Bytes)
  | remove (path : Path)
  deriving DecidableEq, Repr

def perform (map : FileMap) : Step → FileMap
  | .write path content => map.write path content
  | .remove path => map.remove path

def performAll (map : FileMap) (steps : List Step) : FileMap :=
  steps.foldl perform map

structure Normal (key : String) : Prop where
  slashed : '\\' ∉ key.toList
  trimmed : key ≠ "/" → key.toList.getLast? ≠ some '/'

theorem normal_root : Normal "/" :=
  ⟨by decide, fun other => absurd rfl other⟩

theorem dropSlashes_eq (characters : List Char) :
    dropSlashes characters = characters.rdropWhile (· = '/') := by
  simp [dropSlashes, List.rdropWhile]

theorem backslash_notMem_slashed (characters : List Char) : '\\' ∉ slashed characters := by
  intro member
  obtain ⟨character, _, same⟩ := List.mem_map.mp member
  split at same
  next => exact absurd same (by decide)
  next other => exact other same

theorem getLast?_dropSlashes (characters : List Char) :
    (dropSlashes characters).getLast? ≠ some '/' := by
  intro last
  rw [dropSlashes_eq] at last
  have nonempty : characters.rdropWhile (· = '/') ≠ [] := by
    intro nothing
    rw [nothing] at last
    cases last
  rw [List.getLast?_eq_some_getLast nonempty] at last
  exact List.rdropWhile_last_not _ _ nonempty (by simpa using last)

theorem normal_normalize (path : Path) : Normal (normalize path) := by
  unfold normalize
  dsimp only
  split
  next => exact normal_root
  next =>
    refine ⟨?_, fun _ => ?_⟩
    · intro member
      rw [String.toList_ofList, dropSlashes_eq] at member
      exact backslash_notMem_slashed _ ((List.rdropWhile_prefix _ _).subset member)
    · rw [String.toList_ofList]
      exact getLast?_dropSlashes _

theorem slashed_eq {characters : List Char} (forward : '\\' ∉ characters) :
    slashed characters = characters := by
  have same : ∀ character ∈ characters,
      (if character = '\\' then '/' else character) = character := by
    intro character member
    refine if_neg ?_
    rintro rfl
    exact forward member
  exact (List.map_congr_left same).trans (List.map_id' characters)

theorem dropSlashes_of_getLast? {characters : List Char}
    (last : characters.getLast? ≠ some '/') : dropSlashes characters = characters := by
  rw [dropSlashes_eq, List.rdropWhile_eq_self_iff]
  intro nonempty slash
  exact last (by simpa [List.getLast?_eq_some_getLast nonempty] using slash)

theorem normalize_of_normal {key : String} (normal : Normal key) : normalize ⟨key⟩ = key := by
  by_cases root : key = "/"
  · subst root
    decide
  · have kept : dropSlashes (slashed key.toList) = key.toList := by
      rw [slashed_eq normal.slashed, dropSlashes_of_getLast? (normal.trimmed root)]
    unfold normalize
    dsimp only
    rw [kept, slashed_eq normal.slashed, if_neg, String.ofList_toList]
    rintro ⟨nothing, slash⟩
    rw [List.isEmpty_iff.mp nothing] at slash
    cases slash

theorem normalize_idem (path : Path) : normalize ⟨normalize path⟩ = normalize path :=
  normalize_of_normal (normal_normalize path)

def Tidy (map : FileMap) : Prop :=
  ∀ key ∈ map.files.keys, Normal key

theorem tidy_empty : empty.Tidy := by
  intro key member
  cases member

theorem Tidy.write {map : FileMap} (tidy : map.Tidy) (path : Path) (content : Bytes) :
    (map.write path content).Tidy := by
  intro key member
  rcases (Table.mem_keys_insert _ _ _ _).mp member with rfl | older
  · exact normal_normalize path
  · exact tidy key older

theorem Tidy.remove {map : FileMap} (tidy : map.Tidy) (path : Path) : (map.remove path).Tidy := by
  intro key member
  exact tidy key ((Table.mem_keys_erase _ _ _).mp member).1

theorem Tidy.perform {map : FileMap} (tidy : map.Tidy) (step : Step) : (map.perform step).Tidy := by
  cases step with
  | write path content => exact tidy.write path content
  | remove path => exact tidy.remove path

theorem Tidy.performAll {map : FileMap} (tidy : map.Tidy) (steps : List Step) :
    (map.performAll steps).Tidy := by
  induction steps generalizing map with
  | nil => exact tidy
  | cons step rest ih => exact ih (tidy.perform step)

theorem ofList_eq_performAll (files : List (Path × Bytes)) :
    ofList files = empty.performAll (files.map fun file => .write file.1 file.2) := by
  rw [performAll, List.foldl_map]
  rfl

theorem tidy_ofList (files : List (Path × Bytes)) : (ofList files).Tidy := by
  rw [ofList_eq_performAll]
  exact tidy_empty.performAll _

end FileMap

end Bootstrap
