import Mathlib.Algebra.GroupWithZero.Nat
import Bootstrap.Proofs.Filling

/-!
Where a pattern occurs in a text. The text falls into pieces without the pattern, from the left, and
to replace the pattern is to put something else between the pieces.
-/

namespace Bootstrap

namespace Text

theorem occursIn_iff (needle text : List Char) : occursIn needle text = true ↔ needle <:+: text := by
  induction text with
  | nil => rw [occursIn, List.isEmpty_iff, List.infix_nil]
  | cons character rest ih =>
      rw [occursIn, Bool.or_eq_true, List.isPrefixOf_iff_prefix, ih, List.infix_cons_iff]

structure IsBefore (pattern front text : List Char) : Prop where
  occurs : front ++ pattern <+: text
  first : ∀ earlier later, text = earlier ++ pattern ++ later → front.length ≤ earlier.length

/-- What a text is made of between the occurrences of a pattern. -/
structure Pieces (pattern text : List Char) (pieces : List (List Char)) : Prop where
  whole : pattern.intercalate pieces = text
  free : ∀ piece ∈ pieces, ¬pattern <:+: piece

section

variable {pattern text : List Char}

theorem IsBefore.cons {front : List Char} (before : IsBefore pattern front text) {character : Char}
    (absent : ¬pattern <+: character :: text) :
    IsBefore pattern (character :: front) (character :: text) := by
  constructor
  · exact List.cons_prefix_cons.mpr ⟨rfl, before.occurs⟩
  · intro earlier later same
    cases earlier with
    | nil => exact absurd ⟨later, same.symm⟩ absent
    | cons head earlier =>
        have kept := before.first earlier later (List.cons.inj same).2
        simpa using kept

theorem IsBefore.unique {front other : List Char} (before : IsBefore pattern front text)
    (again : IsBefore pattern other text) : front = other := by
  obtain ⟨rest, shape⟩ := before.occurs
  obtain ⟨otherRest, otherShape⟩ := again.occurs
  have short := before.first other otherRest otherShape.symm
  have shortToo := again.first front rest shape.symm
  have same := shape.trans otherShape.symm
  rw [List.append_assoc, List.append_assoc] at same
  exact List.append_inj_left same (by omega)

theorem Pieces.found {front : List Char} {pieces : List (List Char)}
    (parted : Pieces pattern text (front :: pieces)) (nonempty : pattern ≠ []) :
    Pieces pattern (pattern ++ text) ([] :: front :: pieces) := by
  constructor
  · rw [List.intercalate_cons_cons, parted.whole, List.nil_append]
  · intro piece member
    rcases List.mem_cons.mp member with rfl | later
    · exact fun inside => nonempty (List.infix_nil.mp inside)
    · exact parted.free piece later

theorem intercalate_cons_head (separator : List Char) (character : Char) (front : List Char)
    (pieces : List (List Char)) :
    separator.intercalate ((character :: front) :: pieces) =
      character :: separator.intercalate (front :: pieces) := by
  cases pieces with
  | nil => simp
  | cons next rest => rw [List.intercalate_cons_cons, List.intercalate_cons_cons]; rfl

theorem Pieces.letter {front : List Char} {pieces : List (List Char)}
    (parted : Pieces pattern text (front :: pieces)) {character : Char}
    (absent : ¬pattern <+: character :: text) :
    Pieces pattern (character :: text) ((character :: front) :: pieces) := by
  have starts : front <+: text := by
    rw [← parted.whole]
    cases pieces with
    | nil => simp
    | cons next rest =>
        rw [List.intercalate_cons_cons, List.append_assoc]
        exact List.prefix_append _ _
  constructor
  · rw [intercalate_cons_head, parted.whole]
  · intro piece member
    rcases List.mem_cons.mp member with rfl | later
    · intro inside
      rcases List.infix_cons_iff.mp inside with here | within
      · exact absent (here.trans (List.cons_prefix_cons.mpr ⟨rfl, starts⟩))
      · exact parted.free front List.mem_cons_self within
    · exact parted.free piece (List.mem_cons_of_mem _ later)

end

end Text

end Bootstrap
