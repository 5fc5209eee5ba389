import Bootstrap.Proofs.StoredPaths

/-!
Which spellings of a path have one normal form: those that differ in the direction of the slashes
and in the number of slashes at the end. Only the empty path is kept apart from the slashes alone,
which all are the root.
-/

namespace Bootstrap

namespace FileMap

def trimmed (path : Path) : List Char :=
  dropSlashes (slashed path.text.toList)

theorem trimmed_eq_nil_iff (path : Path) :
    trimmed path = [] ↔ ∀ character ∈ slashed path.text.toList, character = '/' := by
  rw [trimmed, dropSlashes_eq, List.rdropWhile_eq_nil_iff]
  simp

theorem toList_normalize (path : Path) : (normalize path).toList =
    if trimmed path = [] ∧ path.text ≠ "" then ['/'] else trimmed path := by
  have starts : trimmed path = [] →
      ((slashed path.text.toList).head? = some '/' ↔ path.text ≠ "") := by
    intro nothing
    have slashes := (trimmed_eq_nil_iff path).mp nothing
    rw [ne_eq, ← String.toList_eq_nil_iff]
    cases characters : path.text.toList with
    | nil => simp [slashed]
    | cons first rest =>
        rw [characters] at slashes
        have slash := slashes _ (List.mem_map_of_mem List.mem_cons_self)
        simpa [slashed] using slash
  have same : (trimmed path).isEmpty = true ∧ (slashed path.text.toList).head? = some '/' ↔
      trimmed path = [] ∧ path.text ≠ "" := by
    rw [List.isEmpty_iff]
    exact and_congr_right starts
  unfold normalize
  dsimp only
  rw [← trimmed, if_congr same rfl rfl]
  split
  next => rfl
  next => rw [String.toList_ofList]

theorem trimmed_ne_root (path : Path) : trimmed path ≠ ['/'] := by
  intro root
  have last := getLast?_dropSlashes (slashed path.text.toList)
  rw [← trimmed, root] at last
  exact last rfl

theorem trimmed_of_empty {path : Path} (nothing : path.text = "") : trimmed path = [] := by
  rw [trimmed, nothing]
  rfl

theorem normalize_eq_iff (path other : Path) : normalize path = normalize other ↔
    trimmed path = trimmed other ∧ (path.text = "" ↔ other.text = "") := by
  have apart := trimmed_ne_root path
  have apart' := trimmed_ne_root other
  rw [← String.toList_inj, toList_normalize, toList_normalize]
  constructor
  · intro same
    -- A path of slashes alone comes to the root, which is what no trimmed path is.
    split at same <;> split at same
    next slashes slashes' => simp [slashes, slashes']
    next => exact absurd same.symm apart'
    next => exact absurd same apart
    next named named' =>
      refine ⟨same, fun nothing => ?_, fun nothing => ?_⟩
      · have gone := trimmed_of_empty nothing
        by_contra present
        exact named' ⟨same ▸ gone, present⟩
      · have gone := trimmed_of_empty nothing
        by_contra present
        exact named ⟨same ▸ gone, present⟩
  · rintro ⟨same, both⟩
    rw [same]
    simp only [ne_eq, both]

theorem slashed_append (front back : List Char) :
    slashed (front ++ back) = slashed front ++ slashed back := by
  simp [slashed]

theorem normalize_backslash (front back : String) :
    normalize ⟨front ++ "\\" ++ back⟩ = normalize ⟨front ++ "/" ++ back⟩ := by
  rw [normalize_eq_iff]
  constructor
  · simp [trimmed, slashed]
  · simp [← String.toList_eq_nil_iff]

theorem normalize_slash {path : Path} (named : path.text ≠ "") :
    normalize ⟨path.text ++ "/"⟩ = normalize path := by
  rw [normalize_eq_iff]
  constructor
  · rw [trimmed, trimmed, String.toList_append, slashed_append]
    rw [dropSlashes_eq, dropSlashes_eq]
    exact List.rdropWhile_concat_pos _ _ _ rfl
  · simp [named]

theorem normalize_root {path : Path} (named : path.text ≠ "")
    (slashes : ∀ character ∈ path.text.toList, character = '/' ∨ character = '\\') :
    normalize path = "/" := by
  have nothing : trimmed path = [] := by
    rw [trimmed_eq_nil_iff]
    intro character member
    obtain ⟨origin, present, rfl⟩ := List.mem_map.mp member
    rcases slashes origin present with rfl | rfl <;> rfl
  rw [← String.toList_inj, toList_normalize, if_pos ⟨nothing, named⟩]
  rfl

/-- When paths have one normal form. -/
structure Spelling : Prop where
  idem : ∀ path, normalize ⟨normalize path⟩ = normalize path
  backslash : ∀ front back, normalize ⟨front ++ "\\" ++ back⟩ = normalize ⟨front ++ "/" ++ back⟩
  slash : ∀ path : Path, path.text ≠ "" → normalize ⟨path.text ++ "/"⟩ = normalize path
  root : ∀ path : Path, path.text ≠ "" →
    (∀ character ∈ path.text.toList, character = '/' ∨ character = '\\') → normalize path = "/"
  same : ∀ path other, normalize path = normalize other ↔
    trimmed path = trimmed other ∧ (path.text = "" ↔ other.text = "")

theorem spelling : Spelling where
  idem := normalize_idem
  backslash := normalize_backslash
  slash := fun _ => normalize_slash
  root := fun _ => normalize_root
  same := normalize_eq_iff

theorem root_apart :
    (empty.write ⟨""⟩ []).isFile ⟨""⟩ = true ∧ (empty.write ⟨""⟩ []).isFile ⟨"/"⟩ = false ∧
      ¬ ∀ (map : FileMap) (path : Path), map.isFile ⟨path.text ++ "/"⟩ = map.isFile path := by
  refine ⟨by decide, by decide, fun always => ?_⟩
  have same := always (empty.write ⟨""⟩ []) ⟨""⟩
  revert same
  decide

end FileMap

end Bootstrap
