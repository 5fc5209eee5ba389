import Bootstrap.Files.Handle
import Bootstrap.Proofs.StoredPaths
import Mathlib.Data.List.Induction

/-!
What a file map holds after any number of writes and removals: under each normal path the content
that was written there last, if it has not been removed since.
-/

namespace Bootstrap

namespace FileMap

def Step.path : Step → Path
  | .write path _ => path
  | .remove path => path

def Step.content? : Step → Option Bytes
  | .write _ content => some content
  | .remove _ => none

theorem get?_perform_same {map : FileMap} {step : Step} {key : String}
    (same : normalize step.path = key) : (map.perform step).files.get? key = step.content? := by
  subst same
  cases step with
  | write path content => exact Table.get?_insert_self _ _ _
  | remove path => exact Table.get?_erase_self _ _

theorem get?_perform_other {map : FileMap} {step : Step} {key : String}
    (other : normalize step.path ≠ key) :
    (map.perform step).files.get? key = map.files.get? key := by
  cases step with
  | write path content => exact Table.get?_insert_ne (Ne.symm other) _ _
  | remove path => exact Table.get?_erase_ne (Ne.symm other) _

theorem performAll_append (map : FileMap) (front back : List Step) :
    map.performAll (front ++ back) = (map.performAll front).performAll back :=
  List.foldl_append

theorem performAll_concat (map : FileMap) (steps : List Step) (step : Step) :
    map.performAll (steps ++ [step]) = (map.performAll steps).perform step :=
  map.performAll_append steps [step]

theorem concat_eq_split {history before rest : List Step} {last step : Step}
    (whole : history ++ [last] = before ++ step :: rest) :
    history = before ∧ last = step ∧ rest = [] ∨
      ∃ front, history = before ++ step :: front ∧ rest = front ++ [last] := by
  rcases List.eq_nil_or_concat rest with rfl | ⟨front, final, rfl⟩
  · obtain ⟨same, ends⟩ := List.append_inj' whole rfl
    exact .inl ⟨same, (List.cons.inj ends).1, rfl⟩
  · rw [List.concat_eq_append, ← List.cons_append, ← List.append_assoc] at whole
    obtain ⟨same, ends⟩ := List.append_inj' whole rfl
    rw [(List.cons.inj ends).1, List.concat_eq_append]
    exact .inr ⟨front, same, rfl⟩

/-- The content was written under the normal path, and no step since has been on that path. -/
def WrittenLast (history : List Step) (key : String) (content : Bytes) : Prop :=
  ∃ before path rest, history = before ++ .write path content :: rest ∧ normalize path = key ∧
    ∀ step ∈ rest, normalize step.path ≠ key

theorem writtenLast_concat_same (history : List Step) {step : Step} {key : String}
    (same : normalize step.path = key) (content : Bytes) :
    WrittenLast (history ++ [step]) key content ↔ step.content? = some content := by
  constructor
  · rintro ⟨before, path, rest, whole, _, later⟩
    rcases concat_eq_split whole with ⟨_, rfl, _⟩ | ⟨front, _, rfl⟩
    · rfl
    · exact absurd same (later step (by simp))
  · intro written
    cases step with
    | write path stored =>
        obtain rfl := Option.some.inj written
        exact ⟨history, path, [], rfl, same, by simp⟩
    | remove path => cases written

theorem writtenLast_concat_other (history : List Step) {step : Step} {key : String}
    (other : normalize step.path ≠ key) (content : Bytes) :
    WrittenLast (history ++ [step]) key content ↔ WrittenLast history key content := by
  constructor
  · rintro ⟨before, path, rest, whole, same, later⟩
    rcases concat_eq_split whole with ⟨_, rfl, _⟩ | ⟨front, rfl, rfl⟩
    · exact absurd same other
    · exact ⟨before, path, front, rfl, same, fun step member => later step (by simp [member])⟩
  · rintro ⟨before, path, rest, rfl, same, later⟩
    refine ⟨before, path, rest ++ [step], by simp, same, fun next member => ?_⟩
    rcases List.mem_append.mp member with earlier | last
    · exact later next earlier
    · rw [List.mem_singleton.mp last]
      exact other

theorem get?_performAll_iff (history : List Step) (key : String) (content : Bytes) :
    (empty.performAll history).files.get? key = some content ↔ WrittenLast history key content := by
  -- From the end on: a last step on the path decides, and any other last step may be left out.
  induction history using List.reverseRecOn with
  | nil =>
      constructor
      · intro stored
        cases stored
      · rintro ⟨before, path, rest, whole, _⟩
        simp at whole
  | append_singleton history step ih =>
      rw [performAll_concat]
      by_cases same : normalize step.path = key
      · rw [get?_perform_same same, writtenLast_concat_same history same]
      · rw [get?_perform_other same, writtenLast_concat_other history same, ih]

structure Agree (map : FileMap) (path : Path) (other : FileMap) (path' : Path) : Prop where
  read : map.read path = other.read path'
  isFile : map.isFile path = other.isFile path'
  take : (map.take path).1 = (other.take path').1

theorem agree_perform {map : FileMap} {step : Step} {path : Path}
    (other : normalize step.path ≠ normalize path) : (map.perform step).Agree path map path := by
  have kept : (map.perform step).files.get? (normalize path) = map.files.get? (normalize path) :=
    get?_perform_other other
  constructor
  · simp only [FileMap.read, kept]
  · simp only [FileMap.isFile, kept]
  · simp only [FileMap.take, kept]

theorem agree_of_normalize_eq (map : FileMap) {path other : Path}
    (same : normalize path = normalize other) : map.Agree path map other := by
  constructor
  · simp only [FileMap.read, same]
  · simp only [FileMap.isFile, same]
  · simp only [FileMap.take, same]

/-- What a path of a map shows after a history of writes and removals. -/
structure Stores (map : FileMap) (history : List Step) (path : Path) : Prop where
  read : ∀ content, map.read path = .ok content ↔ WrittenLast history (normalize path) content
  missing : (∀ content, ¬ WrittenLast history (normalize path) content) →
    map.read path = .error (.notFound (normalize path))
  isFile : map.isFile path = true ↔ ∃ content, WrittenLast history (normalize path) content
  take : map.take path = (map.isFile path, map.perform (.remove path))
  respelled : ∀ other, normalize other = normalize path → map.Agree other map path
  others : ∀ step, normalize step.path ≠ normalize path → (map.perform step).Agree path map path

theorem stores_performAll (history : List Step) (path : Path) :
    (empty.performAll history).Stores history path := by
  have held := get?_performAll_iff history (normalize path)
  have respelled (other : Path) (same : normalize other = normalize path) :
      (empty.performAll history).Agree other (empty.performAll history) path :=
    agree_of_normalize_eq _ same
  have others (step : Step) (apart : normalize step.path ≠ normalize path) :
      ((empty.performAll history).perform step).Agree path (empty.performAll history) path :=
    agree_perform apart
  cases found : (empty.performAll history).files.get? (normalize path) with
  | none =>
      have nothing : ∀ content, ¬ WrittenLast history (normalize path) content := by
        intro content written
        have present := (held content).mpr written
        rw [found] at present
        cases present
      have failed : (empty.performAll history).read path = .error (.notFound (normalize path)) := by
        simp only [FileMap.read, found]
      refine ⟨fun content => ?_, fun _ => failed, ?_, rfl, respelled, others⟩
      · simp [failed, nothing content]
      · simp [FileMap.isFile, found, nothing]
  | some stored =>
      have written := (held stored).mp found
      have reading : (empty.performAll history).read path = .ok stored := by
        simp only [FileMap.read, found]
      refine ⟨fun content => ?_, fun nothing => absurd written (nothing stored), ?_, rfl, respelled,
        others⟩
      · rw [reading, ← held content, found]
        simp
      · simp only [FileMap.isFile, found, Option.isSome_some, true_iff]
        exact ⟨stored, written⟩

end FileMap

end Bootstrap
