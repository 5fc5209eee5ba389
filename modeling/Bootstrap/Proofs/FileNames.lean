import Mathlib.Data.List.Basic
import Bootstrap.Path

/-!
File names at the end of paths: where a name splits into stem and extension, and what becomes of a
path that is given another extension.
-/

namespace Bootstrap

namespace Text

theorem splitLast?_eq_none_iff {separator : Char} {text : List Char} :
    splitLast? separator text = none ↔ separator ∉ text := by
  induction text with
  | nil => simp [splitLast?]
  | cons character rest ih =>
      rw [splitLast?]
      cases later : splitLast? separator rest with
      | some parts =>
          have inside : separator ∈ rest := by
            by_contra absent
            rw [ih.mpr absent] at later
            cases later
          simp [inside]
      | none =>
          have absent := ih.mp later
          by_cases same : character = separator
          · simp [same]
          · simp [same, absent, Ne.symm same]

theorem splitLast?_eq_some_iff {separator : Char} {text before after : List Char} :
    splitLast? separator text = some (before, after) ↔
      text = before ++ separator :: after ∧ separator ∉ after := by
  constructor
  · intro split
    induction text generalizing before with
    | nil => cases split
    | cons character rest ih =>
        rw [splitLast?] at split
        cases later : splitLast? separator rest with
        | some parts =>
            obtain ⟨front, back⟩ := parts
            simp only [later, Option.some.injEq, Prod.mk.injEq] at split
            obtain ⟨rfl, rfl⟩ := split
            obtain ⟨shape, absent⟩ := ih later
            exact ⟨congrArg (character :: ·) shape, absent⟩
        | none =>
            simp only [later] at split
            split at split
            next same =>
              obtain ⟨rfl, rfl⟩ := Prod.mk.inj (Option.some.inj split)
              exact ⟨congrArg (· :: rest) same, splitLast?_eq_none_iff.mp later⟩
            next => cases split
  · rintro ⟨rfl, absent⟩
    induction before with
    | nil => simp [splitLast?, splitLast?_eq_none_iff.mpr absent]
    | cons character front ih => simp [splitLast?, ih]

end Text

namespace Path

/-- What a path can end in, so that this is not dropped: `..` is kept, and `.` is not. -/
structure IsSegment (name : String) : Prop where
  nonempty : name.toList ≠ []
  noSlash : '/' ∉ name.toList
  noDot : name ≠ "."

structure IsFileName (name : String) : Prop extends IsSegment name where
  noDots : name ≠ ".."

def IsBase (base : String) : Prop :=
  ∀ final ∈ base.toList.getLast?, final = '/'

/-- A name splits at its last dot, where the dot is not the first character. -/
structure Splits (name stem extension : String) : Prop where
  whole : name = stem ++ "." ++ extension
  stem : stem ≠ ""
  last : '.' ∉ extension.toList

section

variable {base name : String}

theorem trimTail_of_kept {final : Char} {rest : List Char} (noSlash : final ≠ '/')
    (dot : final = '.' → rest.head? ≠ some '/') : trimTail (final :: rest) = final :: rest := by
  unfold trimTail
  split
  next nothing => cases nothing
  next slash => exact absurd (List.cons.inj slash).1 noSlash
  next dotted =>
    obtain ⟨rfl, rfl⟩ := List.cons.inj dotted
    exact if_neg (dot rfl)
  next same => exact same.symm

theorem body_eq (isSegment : IsSegment name) :
    body ⟨base ++ name⟩ = name.toList.reverse ++ base.toList.reverse := by
  obtain ⟨front, final, shape⟩ :=
    (List.eq_nil_or_concat' name.toList).resolve_left isSegment.nonempty
  have noSlash := isSegment.noSlash
  rw [shape] at noSlash
  rw [body, String.toList_append, List.reverse_append, shape, List.reverse_append]
  refine trimTail_of_kept ?_ ?_
  · rintro rfl
    simp at noSlash
  · rintro rfl ahead
    cases front.eq_nil_or_concat' with
    | inl nothing =>
        refine isSegment.noDot (String.toList_inj.mp ?_)
        rw [shape, nothing]
        rfl
    | inr more =>
        obtain ⟨_, before, rfl⟩ := more
        simp at ahead noSlash
        exact noSlash.2 ahead.symm

theorem takeWhile_body (isBase : IsBase base) (isSegment : IsSegment name) :
    (body ⟨base ++ name⟩).takeWhile (· ≠ '/') = name.toList.reverse ∧
      (body ⟨base ++ name⟩).dropWhile (· ≠ '/') = base.toList.reverse := by
  have inside : ∀ character ∈ name.toList.reverse, decide (character ≠ '/') = true := by
    intro character member
    rw [decide_eq_true_eq]
    rintro rfl
    exact isSegment.noSlash (List.mem_reverse.mp member)
  rw [body_eq isSegment, List.takeWhile_append_of_pos inside, List.dropWhile_append_of_pos inside]
  cases outside : base.toList.reverse with
  | nil => simp
  | cons final rest =>
      have slash : final = '/' := by
        apply isBase
        rw [← List.head?_reverse, outside]
        rfl
      simp [slash]

theorem fileName?_eq (isBase : IsBase base) (isSegment : IsSegment name) :
    fileName? ⟨base ++ name⟩ = if name = ".." then none else some name := by
  have noDot : name.toList ≠ ['.'] := fun dot =>
    isSegment.noDot (String.toList_inj.mp dot)
  have dots : name.toList = "..".toList ↔ name = ".." := String.toList_inj
  rw [fileName?, (takeWhile_body isBase isSegment).1, List.reverse_reverse]
  simp [isSegment.nonempty, noDot, ← dots]

theorem splitName_of_splits {stem extension : String} (splits : Splits name stem extension) :
    splitName name = (stem, some extension) := by
  have shape : name.toList = stem.toList ++ '.' :: extension.toList := by
    rw [splits.whole, String.toList_append, String.toList_append, List.append_assoc]
    rfl
  have parts := Text.splitLast?_eq_some_iff.mpr ⟨shape, splits.last⟩
  have nonempty : stem.toList ≠ [] := fun nothing => splits.stem (String.toList_inj.mp nothing)
  obtain ⟨first, rest, front⟩ := List.exists_cons_of_ne_nil nonempty
  rw [splitName, parts, front]
  simp only [← front, String.ofList_toList]

theorem splits_of_splitName {extension : String} (split : (splitName name).2 = some extension) :
    Splits name (splitName name).1 extension := by
  unfold splitName at split ⊢
  cases parts : Text.splitLast? '.' name.toList with
  | none => simp [parts] at split
  | some parted =>
      obtain ⟨stem, ending⟩ := parted
      obtain ⟨shape, last⟩ := Text.splitLast?_eq_some_iff.mp parts
      cases stem with
      | nil => simp [parts] at split
      | cons first rest =>
          simp only [parts, Option.some.injEq] at split
          subst split
          refine ⟨String.toList_inj.mp ?_, ?_, ?_⟩
          · simp [shape]
          · simp [← String.toList_inj]
          · simpa using last

theorem splits_iff (isBase : IsBase base) (isFileName : IsFileName name) (stem extension : String) :
    Splits name stem extension ↔
      extension? ⟨base ++ name⟩ = some extension ∧ fileStem? ⟨base ++ name⟩ = some stem := by
  have shown : fileName? ⟨base ++ name⟩ = some name := by
    rw [fileName?_eq isBase isFileName.toIsSegment, if_neg isFileName.noDots]
  simp only [extension?, fileStem?, shown, Option.bind_some, Option.map_some, Option.some.injEq]
  constructor
  · intro splits
    simp [splitName_of_splits splits]
  · rintro ⟨split, rfl⟩
    exact splits_of_splitName split

/-- The name that stands beside another with the same stem; a stem of one dot leads elsewhere. -/
def sibling (stem extension : String) : String :=
  if stem = "." then ".." else if extension = "" then stem else stem ++ "." ++ extension

theorem Splits.isSegment {stem extension : String} (splits : Splits name stem extension)
    (noSlash : '/' ∉ name.toList) : IsSegment (stem ++ ".") := by
  have nonempty : stem.toList ≠ [] := fun nothing => splits.stem (String.toList_inj.mp nothing)
  refine ⟨by simp, ?_, ?_⟩
  · intro slash
    apply noSlash
    rw [splits.whole, String.toList_append]
    exact List.mem_append_left _ slash
  · intro dot
    have lengths := congrArg (fun text => text.toList.length) dot
    simp [nonempty] at lengths

end

end Path

end Bootstrap
