import Mathlib.Data.List.Basic
import Bootstrap.Disk.Walk

/-!
Joined paths. A relative path goes behind its base with one slash between them, so the whole is
absolute exactly if the base is, and its segments are the base's and then its own.
-/

namespace Bootstrap

namespace Text

theorem splitChars_ne_nil (separator : Char) (characters : List Char) :
    splitChars separator characters ≠ [] := by
  cases characters with
  | nil => simp [splitChars]
  | cons character characters =>
      rw [splitChars]
      split
      · simp
      · split <;> simp

theorem splitChars_append (separator : Char) (front back : List Char) :
    splitChars separator (front ++ separator :: back) =
      splitChars separator front ++ splitChars separator back := by
  induction front with
  | nil => simp [splitChars]
  | cons character front ih =>
      by_cases same : character = separator
      · simp [splitChars, same, ih]
      · obtain ⟨piece, pieces, first⟩ := List.exists_cons_of_ne_nil (splitChars_ne_nil separator front)
        rw [List.cons_append, splitChars, if_neg same, splitChars, if_neg same, ih, first]
        rfl

theorem splitChars_single {separator : Char} {characters : List Char}
    (whole : separator ∉ characters) : splitChars separator characters = [characters] := by
  induction characters with
  | nil => rfl
  | cons character characters ih =>
      simp only [List.mem_cons, not_or] at whole
      rw [splitChars, if_neg (Ne.symm whole.1), ih whole.2]

end Text

namespace Path

variable {path : Path}

def gap (base : Path) : List Char :=
  if base.text.toList = [] ∨ base.text.toList.getLast? = some '/' then [] else ['/']

theorem join_of_absolute (base : Path) (absolute : path.isAbsolute = true) :
    base.join path = path :=
  if_pos absolute

theorem toList_join (base : Path) (relative : path.isAbsolute = false) :
    (base.join path).text.toList = base.text.toList ++ (base.gap ++ path.text.toList) := by
  simp only [join, relative, Bool.false_eq_true, if_false, gap]
  split
  next empty => simp_all
  next nonempty =>
    split
    next final => simp [final]
    next unclosed =>
      have bare : ¬(base.text.toList = [] ∨ base.text.toList.getLast? = some '/') := by
        simp_all
      rw [if_neg bare]
      simp

theorem isAbsolute_join (base : Path) (relative : path.isAbsolute = false) :
    (base.join path).isAbsolute = base.isAbsolute := by
  have shape := toList_join base relative
  simp only [isAbsolute] at relative ⊢
  rw [shape]
  cases chars : base.text.toList with
  | cons first rest => rfl
  | nil => simpa [gap, chars] using relative

theorem segments_join (base : Path) (relative : path.isAbsolute = false) :
    Disk.segments (base.join path) = Disk.segments base ++ Disk.segments path := by
  simp only [Disk.segments, Text.split, toList_join base relative, gap]
  split
  next closed =>
    rcases closed with empty | final
    · simp [empty, Text.splitChars]
    · obtain ⟨front, ends⟩ := List.getLast?_eq_some_iff.mp final
      simp [ends, Text.splitChars_append, Text.splitChars]
  next => simp [Text.splitChars_append]

end Path

end Bootstrap
