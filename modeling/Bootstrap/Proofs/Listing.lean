import Bootstrap.Proofs.StoredPaths
import Mathlib.Data.List.Basic

/-!
Directories seen through their listings: what a listing shows, when there is one, and which stored
paths it leaves out. A directory is there as soon as a stored path starts with its own path and a
slash, but an entry is made only of a path where a name follows that slash; so a directory whose
stored paths all go on with a second slash has no listing.
-/

namespace Bootstrap

namespace FileMap

def Below (path : Path) (key : String) : Prop :=
  ∃ rest, rest ≠ [] ∧ key.toList = (below (normalize path)).toList ++ rest

/-- The key lies below the path, and a name follows the slash that ends the path. -/
def Continues (path : Path) (key : String) : Prop :=
  ∃ first rest, first ≠ '/' ∧ key.toList = (below (normalize path)).toList ++ first :: rest

structure IsName (name : String) : Prop where
  nonempty : name ≠ ""
  segment : '/' ∉ name.toList
  slashed : '\\' ∉ name.toList

def IsChild (path entry : Path) : Prop :=
  ∃ name, IsName name ∧ entry.text = below (normalize path) ++ name

def Covers (entry : Path) (key : String) : Prop :=
  key = entry.text ∨ Below entry key

theorem Continues.below {path : Path} {key : String} (continues : Continues path key) :
    Below path key := by
  obtain ⟨first, rest, _, same⟩ := continues
  exact ⟨first :: rest, List.cons_ne_nil first rest, same⟩

theorem isDir_iff (path : Path) (map : FileMap) :
    map.isDir path ↔ below (normalize path) ∈ map.files.keys ∨
      ∃ key ∈ map.files.keys, Below path key := by
  simp only [isDir, List.any_eq_true, List.isPrefixOf_iff_prefix]
  constructor
  · rintro ⟨key, stored, rest, same⟩
    by_cases nothing : rest = []
    · left
      rw [nothing, List.append_nil, String.toList_inj] at same
      exact same ▸ stored
    · exact .inr ⟨key, stored, rest, nothing, same.symm⟩
  · rintro (stored | ⟨key, stored, rest, _, same⟩)
    · exact ⟨_, stored, List.prefix_refl _⟩
    · exact ⟨key, stored, rest, same.symm⟩

theorem mem_insertName (name other : String) (names : List String) :
    other ∈ insertName name names ↔ other = name ∨ other ∈ names := by
  induction names with
  | nil => simp [insertName]
  | cons head rest ih =>
      simp only [insertName]
      split
      next same =>
        subst same
        simp
      next =>
        split
        next => simp
        next => simp only [List.mem_cons, ih, or_left_comm]

theorem insertName_ascending (name : String) {names : List String}
    (ascending : names.Pairwise (· < ·)) : (insertName name names).Pairwise (· < ·) := by
  induction names with
  | nil => exact List.pairwise_singleton ..
  | cons head rest ih =>
      obtain ⟨first, others⟩ := List.pairwise_cons.mp ascending
      simp only [insertName]
      split
      next => exact ascending
      next different =>
        split
        next smaller =>
          refine List.pairwise_cons.mpr ⟨?_, ascending⟩
          intro other member
          rcases List.mem_cons.mp member with rfl | later
          · exact smaller
          · exact String.lt_trans smaller (first other later)
        next larger =>
          refine List.pairwise_cons.mpr ⟨?_, ih others⟩
          intro other member
          rcases (mem_insertName name other rest).mp member with rfl | later
          · exact Std.lt_of_le_of_ne (String.not_lt.mp larger) different
          · exact first other later

theorem mem_childNames (start name : String) (map : FileMap) :
    name ∈ map.childNames start ↔ ∃ key ∈ map.files.keys, childName? start key = some name := by
  have gathered : ∀ names : List String, name ∈ names.foldr insertName [] ↔ name ∈ names := by
    intro names
    induction names with
    | nil => rfl
    | cons head rest ih => rw [List.foldr_cons, mem_insertName, ih, List.mem_cons]
  rw [childNames, gathered, List.mem_filterMap]

theorem childNames_ascending (start : String) (map : FileMap) :
    (map.childNames start).Pairwise (· < ·) :=
  List.foldrRecOn _ insertName List.Pairwise.nil fun _ ascending name _ =>
    insertName_ascending name ascending

theorem takeWhile_segment_iff (rest name : List Char) :
    rest.takeWhile (· ≠ '/') = name ↔
      '/' ∉ name ∧ (rest = name ∨ ∃ tail, rest = name ++ '/' :: tail) := by
  constructor
  · rintro rfl
    refine ⟨?_, ?_⟩
    · intro member
      simpa using List.all_eq_true.mp List.all_takeWhile _ member
    · have parts := List.takeWhile_append_dropWhile (p := (· ≠ '/')) (l := rest)
      have stop := List.head?_dropWhile_not (· ≠ '/') rest
      cases left : rest.dropWhile (· ≠ '/') with
      | nil =>
          rw [left, List.append_nil] at parts
          exact .inl parts.symm
      | cons slash tail =>
          rw [left] at parts stop
          obtain rfl : slash = '/' := by simpa using stop
          exact .inr ⟨tail, parts.symm⟩
  · rintro ⟨segment, whole⟩
    have kept : ∀ character ∈ name, decide (character ≠ '/') = true := by
      rintro character member
      refine decide_eq_true ?_
      rintro rfl
      exact segment member
    rcases whole with rfl | ⟨tail, rfl⟩
    · exact List.takeWhile_eq_self_iff.mpr kept
    · rw [List.takeWhile_append_of_pos kept]
      simp

theorem childName?_eq_some_iff (start key name : String) :
    childName? start key = some name ↔ name ≠ "" ∧ ∃ rest,
      start.toList ++ rest = key.toList ∧ rest.takeWhile (· ≠ '/') = name.toList := by
  constructor
  · intro named
    unfold childName? at named
    split at named
    next => cases named
    next rest cut =>
      dsimp only at named
      split at named
      next => cases named
      next nonempty =>
        obtain rfl := Option.some.inj named
        refine ⟨?_, rest, List.isPrefixOf?_eq_some_iff_append_eq.mp cut, String.toList_ofList.symm⟩
        intro nothing
        exact nonempty (List.isEmpty_iff.mpr (String.ofList_eq_empty_iff.mp nothing))
  · rintro ⟨nonempty, rest, same, taken⟩
    have kept : name.toList ≠ [] := mt String.toList_eq_nil_iff.mp nonempty
    simp only [childName?, List.isPrefixOf?_eq_some_iff_append_eq.mpr same, taken]
    rw [if_neg (by simpa using kept), String.ofList_toList]

theorem continues_iff (path : Path) (key : String) :
    Continues path key ↔ ∃ name, childName? (below (normalize path)) key = some name := by
  constructor
  · rintro ⟨first, rest, name, same⟩
    refine ⟨String.ofList ((first :: rest).takeWhile (· ≠ '/')), ?_⟩
    refine (childName?_eq_some_iff ..).mpr ⟨?_, first :: rest, same.symm, String.toList_ofList.symm⟩
    simp [name]
  · rintro ⟨name, named⟩
    obtain ⟨nonempty, rest, same, taken⟩ := (childName?_eq_some_iff ..).mp named
    cases rest with
    | nil => exact absurd (String.toList_eq_nil_iff.mp taken.symm) nonempty
    | cons first rest =>
        refine ⟨first, rest, ?_, same.symm⟩
        rintro rfl
        exact nonempty (String.toList_eq_nil_iff.mp (by simpa using taken.symm))

theorem backslash_notMem_below (path : Path) : '\\' ∉ (below (normalize path)).toList := by
  have forward := (normal_normalize path).slashed
  unfold below
  split
  · exact forward
  · simpa using forward

theorem IsName.getLast? {name : String} (isName : IsName name) (before : List Char) :
    (before ++ name.toList).getLast? ≠ some '/' := by
  intro last
  have kept : name.toList ≠ [] := mt String.toList_eq_nil_iff.mp isName.nonempty
  rw [List.getLast?_append_of_ne_nil _ kept] at last
  exact isName.segment (List.mem_of_getLast? last)

variable {path entry : Path} {key name : String}

theorem IsChild.trimmed (child : IsChild path entry) : entry.text.toList.getLast? ≠ some '/' := by
  obtain ⟨name, isName, text⟩ := child
  rw [text, String.toList_append]
  exact isName.getLast? _

theorem IsChild.normal (child : IsChild path entry) : Normal entry.text := by
  refine ⟨?_, fun _ => child.trimmed⟩
  obtain ⟨name, isName, text⟩ := child
  simp [text, backslash_notMem_below path, isName.slashed]

theorem IsChild.normalize_eq (child : IsChild path entry) : normalize entry = entry.text :=
  normalize_of_normal child.normal

theorem IsChild.below_eq (child : IsChild path entry) :
    below (normalize entry) = entry.text ++ "/" := by
  rw [child.normalize_eq, below, if_neg child.trimmed]

theorem IsChild.below_iff (child : IsChild path entry) (key : String) :
    Below entry key ↔ ∃ rest, rest ≠ [] ∧ key.toList = entry.text.toList ++ '/' :: rest := by
  simp [Below, child.below_eq]

theorem Normal.ne_append_slash (normal : Normal key) {start : List Char} (nonempty : start ≠ []) :
    key.toList ≠ start ++ ['/'] := by
  intro same
  refine normal.trimmed ?_ (by rw [same, List.getLast?_concat])
  rintro rfl
  have length : 1 = start.length + 1 := congrArg List.length same |>.trans (by simp)
  have positive := List.length_pos_of_ne_nil nonempty
  omega

theorem childName?_eq_some_iff_covers (normal : Normal key) :
    childName? (below (normalize path)) key = some name ↔
      IsName name ∧ Covers ⟨below (normalize path) ++ name⟩ key := by
  rw [childName?_eq_some_iff]
  constructor
  · rintro ⟨nonempty, rest, same, taken⟩
    obtain ⟨segment, whole⟩ := (takeWhile_segment_iff rest name.toList).mp taken
    have forward : '\\' ∉ name.toList := by
      intro member
      rw [← taken] at member
      have within := (List.takeWhile_prefix _).subset member
      exact normal.slashed (same ▸ List.mem_append_right _ within)
    have kept : name.toList ≠ [] := mt String.toList_eq_nil_iff.mp nonempty
    have isName : IsName name := ⟨nonempty, segment, forward⟩
    have child : IsChild path ⟨below (normalize path) ++ name⟩ := ⟨name, isName, rfl⟩
    refine ⟨isName, ?_⟩
    rcases whole with rfl | ⟨tail, rfl⟩
    · left
      rw [← String.toList_inj, String.toList_append, same]
    · right
      refine (child.below_iff key).mpr ⟨tail, ?_, by simp [← same]⟩
      rintro rfl
      have whole : key.toList = ((below (normalize path)).toList ++ name.toList) ++ ['/'] := by
        rw [← same, List.append_assoc]
      exact normal.ne_append_slash (List.append_ne_nil_of_right_ne_nil _ kept) whole
  · rintro ⟨isName, covers⟩
    have child : IsChild path ⟨below (normalize path) ++ name⟩ := ⟨name, isName, rfl⟩
    refine ⟨isName.nonempty, ?_⟩
    rcases covers with rfl | lower
    · refine ⟨name.toList, by simp, ?_⟩
      exact (takeWhile_segment_iff ..).mpr ⟨isName.segment, .inl rfl⟩
    · obtain ⟨rest, _, same⟩ := (child.below_iff key).mp lower
      refine ⟨name.toList ++ '/' :: rest, by simp [same], ?_⟩
      exact (takeWhile_segment_iff ..).mpr ⟨isName.segment, .inr ⟨rest, rfl⟩⟩

theorem IsChild.covers_iff (child : IsChild path entry) (normal : Normal key) :
    Covers entry key ↔ ∃ name, childName? (below (normalize path)) key = some name ∧
      entry = ⟨below (normalize path) ++ name⟩ := by
  constructor
  · intro covers
    obtain ⟨name, isName, text⟩ := child
    obtain rfl : entry = ⟨below (normalize path) ++ name⟩ := congrArg Path.mk text
    exact ⟨name, (childName?_eq_some_iff_covers normal).mpr ⟨isName, covers⟩, rfl⟩
  · rintro ⟨name, named, rfl⟩
    exact ((childName?_eq_some_iff_covers normal).mp named).2

theorem contains_of_covers {map : FileMap} (stored : key ∈ map.files.keys)
    (child : IsChild path entry) (covers : Covers entry key) : map.contains entry := by
  rcases covers with rfl | lower
  · have file : map.isFile entry := by
      rw [isFile, child.normalize_eq]
      exact (Table.isSome_get?_iff ..).mpr stored
    simp [contains, file]
  · have directory : map.isDir entry := (isDir_iff entry map).mpr (.inr ⟨key, stored, lower⟩)
    simp [contains, directory]

theorem list_eq_ok_iff (path : Path) (map : FileMap) (entries : List Path) :
    map.list path = .ok entries ↔ map.childNames (below (normalize path)) ≠ [] ∧
      entries = (map.childNames (below (normalize path))).map
        fun name => ⟨below (normalize path) ++ name⟩ := by
  unfold list
  dsimp only
  cases map.childNames (below (normalize path)) with
  | nil =>
      simp only [ne_eq, not_true_eq_false, false_and, iff_false]
      split <;> simp
  | cons name names => simp [eq_comm]

theorem list_eq_error_iff (path : Path) (map : FileMap) (error : FileError) :
    map.list path = .error error ↔ map.childNames (below (normalize path)) = [] ∧
      error = if map.isFile path then .notADirectory (normalize path)
        else .notFound (normalize path) := by
  unfold list isFile
  dsimp only
  cases map.childNames (below (normalize path)) with
  | nil =>
      simp only [true_and]
      split <;> simp [eq_comm]
  | cons name names => simp

theorem childNames_ne_nil_iff (path : Path) (map : FileMap) :
    map.childNames (below (normalize path)) ≠ [] ↔ ∃ key ∈ map.files.keys, Continues path key := by
  constructor
  · intro nonempty
    obtain ⟨name, member⟩ := List.exists_mem_of_ne_nil _ nonempty
    obtain ⟨key, stored, named⟩ := (mem_childNames ..).mp member
    exact ⟨key, stored, (continues_iff path key).mpr ⟨name, named⟩⟩
  · rintro ⟨key, stored, continues⟩
    obtain ⟨name, named⟩ := (continues_iff path key).mp continues
    exact List.ne_nil_of_mem ((mem_childNames ..).mpr ⟨key, stored, named⟩)

theorem list_isOk_iff (path : Path) (map : FileMap) :
    (∃ entries, map.list path = .ok entries) ↔ ∃ key ∈ map.files.keys, Continues path key := by
  simp [list_eq_ok_iff, ← childNames_ne_nil_iff]

variable {map : FileMap} {entries : List Path}

theorem Tidy.mem_list_iff (tidy : map.Tidy) (listed : map.list path = .ok entries) (entry : Path) :
    entry ∈ entries ↔ IsChild path entry ∧ ∃ key ∈ map.files.keys, Covers entry key := by
  obtain ⟨_, rfl⟩ := (list_eq_ok_iff path map entries).mp listed
  simp only [List.mem_map, mem_childNames]
  constructor
  · rintro ⟨name, ⟨key, stored, named⟩, rfl⟩
    obtain ⟨isName, covers⟩ := (childName?_eq_some_iff_covers (tidy key stored)).mp named
    exact ⟨⟨name, isName, rfl⟩, key, stored, covers⟩
  · rintro ⟨child, key, stored, covers⟩
    obtain ⟨name, named, rfl⟩ := (child.covers_iff (tidy key stored)).mp covers
    exact ⟨name, ⟨key, stored, named⟩, rfl⟩

theorem list_ascending (listed : map.list path = .ok entries) :
    entries.Pairwise fun first second => first.text < second.text := by
  obtain ⟨_, rfl⟩ := (list_eq_ok_iff path map entries).mp listed
  refine List.pairwise_map.mpr ((childNames_ascending _ map).imp ?_)
  intro first second less
  rw [String.lt_iff] at less ⊢
  rw [String.toList_append, String.toList_append]
  exact List.append_left_lt less

structure Lists (map : FileMap) (path : Path) (entries : List Path) : Prop where
  members : ∀ entry, entry ∈ entries ↔ IsChild path entry ∧ ∃ key ∈ map.files.keys, Covers entry key
  present : ∀ entry ∈ entries, map.contains entry
  ascending : entries.Pairwise fun first second => first.text < second.text
  distinct : entries.Nodup
  shown : ∀ key ∈ map.files.keys, Continues path key → ∃! entry, entry ∈ entries ∧ Covers entry key
  hidden : ∀ key ∈ map.files.keys, ¬ Continues path key → ∀ entry ∈ entries, ¬ Covers entry key

theorem Tidy.lists (tidy : map.Tidy) (listed : map.list path = .ok entries) :
    map.Lists path entries where
  members := tidy.mem_list_iff listed
  present := by
    intro entry member
    obtain ⟨child, key, stored, covers⟩ := (tidy.mem_list_iff listed entry).mp member
    exact contains_of_covers stored child covers
  ascending := list_ascending listed
  distinct := by
    refine (list_ascending listed).imp ?_
    rintro first second less rfl
    exact String.lt_irrefl _ less
  shown := by
    intro key stored continues
    obtain ⟨name, named⟩ := (continues_iff path key).mp continues
    obtain ⟨isName, covers⟩ := (childName?_eq_some_iff_covers (tidy key stored)).mp named
    have child : IsChild path ⟨below (normalize path) ++ name⟩ := ⟨name, isName, rfl⟩
    refine ⟨_, ⟨(tidy.mem_list_iff listed _).mpr ⟨child, key, stored, covers⟩, covers⟩, ?_⟩
    rintro other ⟨member, covered⟩
    have sibling := ((tidy.mem_list_iff listed other).mp member).1
    obtain ⟨same, renamed, rfl⟩ := (sibling.covers_iff (tidy key stored)).mp covered
    rw [Option.some.inj (named.symm.trans renamed)]
  hidden := by
    intro key stored stops entry member covers
    have child := ((tidy.mem_list_iff listed entry).mp member).1
    obtain ⟨name, named, _⟩ := (child.covers_iff (tidy key stored)).mp covers
    exact stops ((continues_iff path key).mpr ⟨name, named⟩)

/-- A directory shown as a whole: it has a listing, and all that lies below it lies in one entry. -/
structure Shown (map : FileMap) (path : Path) : Prop where
  answers : (∃ entries, map.list path = .ok entries) ↔ map.isDir path
  covers : ∀ entries, map.list path = .ok entries → ∀ key ∈ map.files.keys, Below path key →
    ∃! entry, entry ∈ entries ∧ Covers entry key

theorem Tidy.shown_iff (tidy : map.Tidy) (path : Path) :
    map.Shown path ↔
      (∀ key ∈ map.files.keys, Below path key → Continues path key) ∧
        (below (normalize path) ∈ map.files.keys → ∃ key ∈ map.files.keys, Below path key) := by
  constructor
  · intro shown
    refine ⟨?_, ?_⟩
    · intro key stored lower
      by_contra stops
      have directory := (isDir_iff path map).mpr (.inr ⟨key, stored, lower⟩)
      obtain ⟨entries, listed⟩ := shown.answers.mpr directory
      obtain ⟨entry, ⟨member, covers⟩, _⟩ := shown.covers entries listed key stored lower
      exact (tidy.lists listed).hidden key stored stops entry member covers
    · intro root
      have directory := (isDir_iff path map).mpr (.inl root)
      obtain ⟨key, stored, continues⟩ := (list_isOk_iff path map).mp (shown.answers.mpr directory)
      exact ⟨key, stored, continues.below⟩
  · rintro ⟨named, inhabited⟩
    refine ⟨?_, ?_⟩
    · rw [list_isOk_iff, isDir_iff]
      constructor
      · rintro ⟨key, stored, continues⟩
        exact .inr ⟨key, stored, continues.below⟩
      · intro directory
        obtain ⟨key, stored, lower⟩ := directory.elim inhabited id
        exact ⟨key, stored, named key stored lower⟩
    · intro entries listed key stored lower
      exact (tidy.lists listed).shown key stored (named key stored lower)

/-- There is a listing exactly if a stored path goes on with a name, it shows exactly the stored
paths that do, and a refusal says whether the path is a file. So a directory is shown as a whole
unless a stored path goes on with a second slash, or is the root while nothing lies below. -/
structure Listing (map : FileMap) (path : Path) : Prop where
  answers : (∃ entries, map.list path = .ok entries) ↔
    ∃ key ∈ map.files.keys, Continues path key
  lists : ∀ entries, map.list path = .ok entries → map.Lists path entries
  refused : ∀ error, map.list path = .error error →
    error = if map.isFile path then .notADirectory (normalize path) else .notFound (normalize path)
  whole : map.Shown path ↔
    (∀ key ∈ map.files.keys, Below path key → Continues path key) ∧
      (below (normalize path) ∈ map.files.keys → ∃ key ∈ map.files.keys, Below path key)

theorem listing_performAll (files : List (Path × Bytes)) (steps : List Step) (path : Path) :
    ((ofList files).performAll steps).Listing path where
  answers := list_isOk_iff path _
  lists _ listed := ((tidy_ofList files).performAll steps).lists listed
  refused error refused := ((list_eq_error_iff path _ error).mp refused).2
  whole := ((tidy_ofList files).performAll steps).shown_iff path

theorem second_slash_not_shown :
    (ofList [(⟨"/a//b"⟩, [])]).isDir ⟨"/a"⟩ = true ∧
      (ofList [(⟨"/a//b"⟩, [])]).list ⟨"/a"⟩ = .error (.notFound "/a") ∧
      ¬ ((ofList [(⟨"/a//b"⟩, [])]).performAll []).Shown ⟨"/a"⟩ ∧
      (ofList [(⟨"/a//b"⟩, []), (⟨"/a/c"⟩, [])]).list ⟨"/a"⟩ = .ok [⟨"/a/c"⟩] := by
  have directory : (ofList [(⟨"/a//b"⟩, [])]).isDir ⟨"/a"⟩ = true := by decide +kernel
  have refused : (ofList [(⟨"/a//b"⟩, [])]).list ⟨"/a"⟩ = .error (.notFound "/a") := by
    decide +kernel
  refine ⟨directory, refused, ?_, by decide +kernel⟩
  intro shown
  obtain ⟨entries, listed⟩ := shown.answers.mpr directory
  cases refused.symm.trans listed

end FileMap

end Bootstrap
