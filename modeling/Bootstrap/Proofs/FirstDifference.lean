import Mathlib.Data.List.Basic
import Bootstrap.Failure

/-!
Where two byte sequences begin to differ. Main statement: a comparison finds nothing exactly if they
are equal, and else the sizes and the one offset that parts them.
-/

namespace Bootstrap

namespace Mismatch

/-- The sequences agree before the offset and not there, where one of them may have ended. -/
structure PartsAt (left right : Bytes) (offset : Nat) : Prop where
  agree : ∀ earlier < offset, left[earlier]? = right[earlier]?
  differ : left[offset]? ≠ right[offset]?

section offsets

variable {left right : Bytes} {offset other : Nat}

theorem partsAt_zero {byte first : UInt8} (differs : byte ≠ first) :
    PartsAt (byte :: left) (first :: right) 0 := by
  constructor
  · intro earlier below
    omega
  · simpa using differs

theorem PartsAt.cons (parts : PartsAt left right offset) (byte : UInt8) :
    PartsAt (byte :: left) (byte :: right) (offset + 1) := by
  constructor
  · intro earlier below
    cases earlier with
    | zero => simp
    | succ earlier =>
        have kept := parts.agree earlier (by omega)
        simpa using kept
  · simpa using parts.differ

theorem PartsAt.behind (parts : PartsAt left right offset) (common : Bytes) :
    PartsAt (common ++ left) (common ++ right) (offset + common.length) := by
  induction common with
  | nil => exact parts
  | cons byte common ih => exact ih.cons byte

theorem partsAt_firstDifferenceOf (differs : left ≠ right) :
    PartsAt left right (firstDifferenceOf left right) := by
  induction left generalizing right with
  | nil =>
      cases right with
      | nil => exact absurd rfl differs
      | cons first right => exact ⟨by simp [firstDifferenceOf], by simp [firstDifferenceOf]⟩
  | cons byte left ih =>
      cases right with
      | nil => exact ⟨by simp [firstDifferenceOf], by simp [firstDifferenceOf]⟩
      | cons first right =>
          rw [firstDifferenceOf]
          by_cases same : byte = first
          · subst same
            have tails : left ≠ right := by
              intro equal
              exact differs (by rw [equal])
            rw [if_pos rfl]
            exact (ih tails).cons byte
          · rw [if_neg same]
            exact partsAt_zero same

theorem PartsAt.unique (parts : PartsAt left right offset) (again : PartsAt left right other) :
    offset = other := by
  rcases Nat.lt_trichotomy offset other with below | same | above
  · exact absurd (again.agree offset below) parts.differ
  · exact same
  · exact absurd (parts.agree other above) again.differ

theorem PartsAt.symm (parts : PartsAt left right offset) : PartsAt right left offset := by
  constructor
  · intro earlier below
    exact (parts.agree earlier below).symm
  · exact parts.differ.symm

theorem PartsAt.ne (parts : PartsAt left right offset) : left ≠ right := by
  intro equal
  exact parts.differ (by rw [equal])

theorem PartsAt.firstDifferenceOf_eq (parts : PartsAt left right offset) :
    firstDifferenceOf left right = offset :=
  (partsAt_firstDifferenceOf parts.ne).unique parts

theorem PartsAt.le_length (parts : PartsAt left right offset) : offset ≤ left.length := by
  by_contra beyond
  have below : left.length < offset := by omega
  -- They agree where the first sequence ends, so that both have ended before the offset.
  have ended : right[left.length]? = none := by
    rw [← parts.agree left.length below]
    simp
  have shorter : right.length ≤ left.length := List.getElem?_eq_none_iff.mp ended
  have gone : left[offset]? = none := List.getElem?_eq_none_iff.mpr (by omega)
  have goneToo : right[offset]? = none := List.getElem?_eq_none_iff.mpr (by omega)
  exact parts.differ (by rw [gone, goneToo])

theorem PartsAt.isPrefix (parts : PartsAt left right left.length) :
    left <+: right ∧ left.length < right.length := by
  have longer : left.length < right.length := by
    have missing : left[left.length]? = none := by simp
    have present := parts.differ
    rw [missing] at present
    by_contra short
    exact present (List.getElem?_eq_none_iff.mpr (by omega)).symm
  refine ⟨?_, longer⟩
  rw [List.prefix_iff_getElem?]
  intro earlier below
  rw [← parts.agree earlier below]
  exact List.getElem?_eq_getElem below

theorem PartsAt.append (parts : PartsAt left right offset) (inLeft : offset < left.length)
    (inRight : offset < right.length) (suffix : Bytes) :
    PartsAt (left ++ suffix) (right ++ suffix) offset := by
  constructor
  · intro earlier below
    rw [List.getElem?_append_left (by omega), List.getElem?_append_left (by omega)]
    exact parts.agree earlier below
  · rw [List.getElem?_append_left inLeft, List.getElem?_append_left inRight]
    exact parts.differ

end offsets

theorem compare?_eq_none_iff (stage next : Stage) (left right : Bytes) :
    compare? stage next left right = none ↔ left = right := by
  simp [compare?]

theorem compare?_of_partsAt (stage next : Stage) {left right : Bytes} {offset : Nat}
    (parts : PartsAt left right offset) :
    compare? stage next left right = some ⟨stage, next, left.length, right.length, offset⟩ := by
  rw [compare?, if_neg parts.ne, parts.firstDifferenceOf_eq]

theorem compare?_eq_some_iff (stage next : Stage) (left right : Bytes) (mismatch : Mismatch) :
    compare? stage next left right = some mismatch ↔
      PartsAt left right mismatch.firstDifference ∧
        mismatch = ⟨stage, next, left.length, right.length, mismatch.firstDifference⟩ := by
  constructor
  · intro found
    have differs : left ≠ right := by
      intro equal
      rw [(compare?_eq_none_iff stage next left right).mpr equal] at found
      contradiction
    have parts := partsAt_firstDifferenceOf differs
    rw [compare?_of_partsAt stage next parts] at found
    rw [← Option.some.inj found]
    exact ⟨parts, rfl⟩
  · rintro ⟨parts, shape⟩
    rw [compare?_of_partsAt stage next parts, ← shape]

/-- Comparing finds nothing between equal sequences only. Otherwise it tells the two sizes and the
offset before which the sequences agree, and at which they have different bytes or the shorter one
ends; the order of the two does not matter for it, nor does what comes after both. -/
theorem compare?_locates (stage next : Stage) (left right : Bytes) :
    (compare? stage next left right = none ↔ left = right) ∧
    ∀ mismatch, compare? stage next left right = some mismatch →
      mismatch.stageSize = left.length ∧ mismatch.nextSize = right.length ∧
      mismatch.firstDifference ≤ min left.length right.length ∧
      (∀ earlier < mismatch.firstDifference, left[earlier]? = right[earlier]?) ∧
      ((∃ byte other, left[mismatch.firstDifference]? = some byte ∧
          right[mismatch.firstDifference]? = some other ∧ byte ≠ other) ∨
        (mismatch.firstDifference = left.length ∧ left <+: right ∧ left.length < right.length) ∨
        (mismatch.firstDifference = right.length ∧ right <+: left ∧
          right.length < left.length)) ∧
      compare? stage next right left = some { mismatch with
        stageSize := mismatch.nextSize, nextSize := mismatch.stageSize } ∧
      ∀ suffix, mismatch.firstDifference < left.length → mismatch.firstDifference < right.length →
        compare? stage next (left ++ suffix) (right ++ suffix) = some { mismatch with
          stageSize := mismatch.stageSize + suffix.length
          nextSize := mismatch.nextSize + suffix.length } := by
  refine ⟨compare?_eq_none_iff stage next left right, ?_⟩
  intro mismatch found
  obtain ⟨parts, shape⟩ := (compare?_eq_some_iff stage next left right mismatch).mp found
  obtain ⟨offset, located⟩ : ∃ offset, mismatch.firstDifference = offset := ⟨_, rfl⟩
  rw [located] at parts shape
  subst shape
  have inLeft := parts.le_length
  have inRight := parts.symm.le_length
  refine ⟨rfl, rfl, by omega, parts.agree, ?_, compare?_of_partsAt stage next parts.symm, ?_⟩
  · by_cases endsLeft : offset = left.length
    · subst endsLeft
      exact .inr (.inl ⟨rfl, parts.isPrefix⟩)
    · by_cases endsRight : offset = right.length
      · subst endsRight
        exact .inr (.inr ⟨rfl, parts.symm.isPrefix⟩)
      · have present := List.getElem?_eq_getElem (show offset < left.length by omega)
        have presentToo := List.getElem?_eq_getElem (show offset < right.length by omega)
        have differ := parts.differ
        rw [present, presentToo] at differ
        exact .inl ⟨_, _, present, presentToo, fun same => differ (by rw [same])⟩
  · intro suffix below belowToo
    rw [compare?_of_partsAt stage next (parts.append below belowToo suffix)]
    simp

theorem compare?_locates_third :
    compare? .stage2 .stage3 [97, 98, 99, 100] [97, 98, 88, 100] =
        some ⟨.stage2, .stage3, 4, 4, 2⟩ ∧
      compare? .stage2 .stage3 [97, 98, 88, 100] [97, 98, 99, 100] =
        some ⟨.stage2, .stage3, 4, 4, 2⟩ ∧
      compare? .stage2 .stage3 [97, 98, 99, 100, 10] [97, 98, 88, 100, 10] =
        some ⟨.stage2, .stage3, 5, 5, 2⟩ := by
  have found : compare? .stage2 .stage3 [97, 98, 99, 100] [97, 98, 88, 100] =
      some ⟨.stage2, .stage3, 4, 4, 2⟩ := by decide
  obtain ⟨-, -, -, -, -, swapped, longer⟩ :=
    (compare?_locates .stage2 .stage3 [97, 98, 99, 100] [97, 98, 88, 100]).2 _ found
  exact ⟨found, swapped, longer [10] (by decide) (by decide)⟩

example : compare? .stage1 .stage2 [97, 98, 99] [97, 98, 99, 100, 101] =
    some ⟨.stage1, .stage2, 3, 5, 3⟩ := by
  decide

end Mismatch

end Bootstrap
