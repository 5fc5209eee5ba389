import Mathlib.Data.List.Basic
import Bootstrap.Artifact

/-!
Fingerprints of byte sequences that are nearly the same. A step of the hash loses nothing, neither
of the hash so far nor of the byte, so two sequences that differ in one byte have two fingerprints.
-/

namespace Bootstrap

section steps

variable {hash other : UInt64} {byte changed : UInt8}

/-- The FNV prime is odd, so it has an inverse among the 64-bit words. -/
theorem fnvPrime_mul_inverse : (0x100000001b3 : UInt64) * 0xce965057aff6957b = 1 := by
  decide

theorem xor_eq_of_fingerprintStep_eq
    (same : fingerprintStep hash byte = fingerprintStep other changed) :
    hash ^^^ byte.toUInt64 = other ^^^ changed.toUInt64 := by
  have undone (word : UInt64) : word * 0x100000001b3 * 0xce965057aff6957b = word := by
    rw [UInt64.mul_assoc, fnvPrime_mul_inverse, UInt64.mul_one]
  calc hash ^^^ byte.toUInt64
      = fingerprintStep hash byte * 0xce965057aff6957b := (undone _).symm
    _ = fingerprintStep other changed * 0xce965057aff6957b := by rw [same]
    _ = other ^^^ changed.toUInt64 := undone _

theorem hash_eq_of_fingerprintStep_eq
    (same : fingerprintStep hash byte = fingerprintStep other byte) : hash = other :=
  (UInt64.xor_left_inj byte.toUInt64).mp (xor_eq_of_fingerprintStep_eq same)

theorem byte_eq_of_fingerprintStep_eq
    (same : fingerprintStep hash byte = fingerprintStep hash changed) : byte = changed :=
  UInt8.toUInt64_inj.mp ((UInt64.xor_right_inj hash).mp (xor_eq_of_fingerprintStep_eq same))

theorem hash_eq_of_foldl_eq (bytes : Bytes)
    (same : bytes.foldl fingerprintStep hash = bytes.foldl fingerprintStep other) :
    hash = other := by
  induction bytes generalizing hash other with
  | nil => exact same
  | cons byte bytes ih =>
      rw [List.foldl_cons, List.foldl_cons] at same
      exact hash_eq_of_fingerprintStep_eq (ih same)

theorem fingerprint_replaced_eq_iff (front back : Bytes) :
    fingerprint (front ++ byte :: back) = fingerprint (front ++ changed :: back) ↔
      byte = changed := by
  constructor
  · intro same
    simp only [fingerprint, List.foldl_append, List.foldl_cons] at same
    exact byte_eq_of_fingerprintStep_eq (hash_eq_of_foldl_eq back same)
  · rintro rfl
    rfl

end steps

section places

variable {left right : Bytes} {place : Nat}

theorem exists_replaced (sameSize : left.length = right.length)
    (differ : left[place]? ≠ right[place]?)
    (elsewhere : ∀ other, other ≠ place → left[other]? = right[other]?) :
    ∃ front byte changed back, left = front ++ byte :: back ∧ right = front ++ changed :: back ∧
      byte ≠ changed := by
  have inLeft : place < left.length := by
    by_contra beyond
    have gone : left[place]? = none := List.getElem?_eq_none_iff.mpr (by omega)
    have goneToo : right[place]? = none := List.getElem?_eq_none_iff.mpr (by omega)
    exact differ (by rw [gone, goneToo])
  have inRight : place < right.length := by omega
  have before : left.take place = right.take place := by
    apply List.ext_getElem?
    intro index
    rw [List.getElem?_take, List.getElem?_take]
    split
    next below => exact elsewhere index (by omega)
    next => rfl
  have after : left.drop (place + 1) = right.drop (place + 1) := by
    apply List.ext_getElem?
    intro index
    rw [List.getElem?_drop, List.getElem?_drop]
    exact elsewhere (place + 1 + index) (by omega)
  have shape : left = left.take place ++ left[place] :: left.drop (place + 1) := by
    rw [← List.drop_eq_getElem_cons inLeft, List.take_append_drop]
  have shapeToo : right = left.take place ++ right[place] :: left.drop (place + 1) := by
    rw [before, after, ← List.drop_eq_getElem_cons inRight, List.take_append_drop]
  refine ⟨_, _, _, _, shape, shapeToo, ?_⟩
  rintro same
  apply differ
  rw [List.getElem?_eq_getElem inLeft, List.getElem?_eq_getElem inRight, same]

end places

/-- Byte sequences of one length that differ in exactly one place have different fingerprints. -/
theorem fingerprint_tells_change {left right : Bytes} (sameSize : left.length = right.length)
    (once : ∃! place : Nat, left[place]? ≠ right[place]?) :
    fingerprint left ≠ fingerprint right := by
  obtain ⟨place, differ, only⟩ := once
  have elsewhere : ∀ other, other ≠ place → left[other]? = right[other]? := by
    intro other away
    by_contra apart
    exact away (only other apart)
  obtain ⟨front, byte, changed, back, rfl, rfl, replaced⟩ :=
    exists_replaced sameSize differ elsewhere
  intro same
  exact replaced ((fingerprint_replaced_eq_iff front back).mp same)

theorem highest_bit_changes_fingerprint :
    [7, 0, 255].length = [7, 128, 255].length ∧
      (∃! place : Nat, ([7, 0, 255] : Bytes)[place]? ≠ ([7, 128, 255] : Bytes)[place]?) ∧
      fingerprint [7, 0, 255] ≠ fingerprint [7, 128, 255] := by
  have once : ∃! place : Nat,
      ([7, 0, 255] : Bytes)[place]? ≠ ([7, 128, 255] : Bytes)[place]? := by
    refine ⟨1, by decide, ?_⟩
    intro place differ
    match place with
    | 0 => simp at differ
    | 1 => rfl
    | 2 => simp at differ
    | _ + 3 => simp at differ
  exact ⟨rfl, once, fingerprint_tells_change rfl once⟩

end Bootstrap
