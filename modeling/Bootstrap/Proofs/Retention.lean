import Bootstrap.Log.Ring
import Mathlib.Data.List.DropRight

/-!
What a ring retains of the records written since it was last cleared, and how many it counts as
dropped.
-/

namespace Bootstrap

namespace Log

namespace Ring

inductive Step where
  | write (record : Record)
  | clear
  deriving DecidableEq, Repr

def Step.record? : Step → Option Record
  | .write record => some record
  | .clear => none

def perform (ring : Ring) : Step → Ring
  | .write record => ring.push record
  | .clear => ring.clear

def performAll (ring : Ring) (steps : List Step) : Ring :=
  steps.foldl perform ring

def written (steps : List Step) : List Record :=
  (steps.rtakeWhile fun step => step.record?.isSome).filterMap Step.record?

theorem performAll_concat (ring : Ring) (steps : List Step) (step : Step) :
    ring.performAll (steps ++ [step]) = (ring.performAll steps).perform step := by
  simp [performAll]

theorem written_concat_write (steps : List Step) (record : Record) :
    written (steps ++ [.write record]) = written steps ++ [record] := by
  simp [written, Step.record?]

theorem written_concat_clear (steps : List Step) : written (steps ++ [.clear]) = [] := by
  simp [written, Step.record?]

/-- What a ring of any capacity comes to. Without room for a single record it still keeps the last
one, and counts it as dropped all the same. -/
structure Keeps (ring : Ring) (written : List Record) : Prop where
  records : ring.records = written.drop (written.length - max ring.capacity 1)
  dropped : ring.dropped = written.length - ring.capacity

theorem keeps_empty (capacity : Nat) : (empty capacity).Keeps [] :=
  ⟨by simp [empty], by simp [empty]⟩

theorem Keeps.length {ring : Ring} {written : List Record} (keeps : ring.Keeps written) :
    ring.records.length = min (max ring.capacity 1) written.length := by
  rw [keeps.records, List.length_drop]
  omega

theorem keeps_clear (ring : Ring) : ring.clear.Keeps [] :=
  ⟨by simp [Ring.clear], by simp [Ring.clear]⟩

theorem Keeps.push {ring : Ring} {written : List Record} (keeps : ring.Keeps written)
    (record : Record) : (ring.push record).Keeps (written ++ [record]) := by
  have length := keeps.length
  have grown : (written ++ [record]).length = written.length + 1 := by simp
  have within : written.length + 1 - max ring.capacity 1 ≤ written.length := by omega
  unfold Ring.push
  split
  next full =>
    have shifted : ring.records.drop 1 =
        written.drop (written.length + 1 - max ring.capacity 1) := by
      rw [keeps.records, List.drop_drop]
      rcases Nat.lt_or_ge written.length (max ring.capacity 1) with few | many
      · -- Only a ring without room is full so early, and it has nothing yet.
        have nothing : written = [] := List.eq_nil_of_length_eq_zero (by omega)
        simp [nothing]
      · congr 1
        omega
    constructor
    · simp only [shifted]
      rw [grown, List.drop_append_of_le_length within]
    · simp only [keeps.dropped, grown]
      omega
  next room =>
    have all : ring.records = written := by
      have few : written.length - max ring.capacity 1 = 0 := by omega
      rw [keeps.records, few, List.drop_zero]
    constructor
    · have few : written.length + 1 - max ring.capacity 1 = 0 := by omega
      simp only [all, grown, few, List.drop_zero]
    · simp only [keeps.dropped, grown]
      omega

theorem capacity_perform (ring : Ring) (step : Step) :
    (ring.perform step).capacity = ring.capacity := by
  cases step with
  | write record =>
      simp only [perform, push]
      split <;> rfl
  | clear => rfl

theorem capacity_performAll (ring : Ring) (steps : List Step) :
    (ring.performAll steps).capacity = ring.capacity := by
  induction steps using List.reverseRecOn with
  | nil => rfl
  | append_singleton steps step ih => rw [performAll_concat, capacity_perform, ih]

theorem keeps_performAll (capacity : Nat) (steps : List Step) :
    ((empty capacity).performAll steps).Keeps (written steps) := by
  induction steps using List.reverseRecOn with
  | nil => exact keeps_empty capacity
  | append_singleton steps step ih =>
      rw [performAll_concat]
      cases step with
      | write record =>
          rw [written_concat_write]
          exact ih.push record
      | clear =>
          rw [written_concat_clear]
          exact keeps_clear _

/-- Each record is either retained or counted as dropped, and the retained ones are the last, as
many as there is room for. -/
structure Retains (ring : Ring) (written : List Record) : Prop where
  last : ring.records = written.drop (written.length - min ring.capacity written.length)
  length : ring.records.length = min ring.capacity written.length
  bounded : ring.records.length ≤ ring.capacity
  total : ring.records.length + ring.dropped = written.length
  apart : ∃ gone, gone.length = ring.dropped ∧ gone ++ ring.records = written

theorem Keeps.retains {ring : Ring} {written : List Record} (keeps : ring.Keeps written)
    (room : 0 < ring.capacity) : ring.Retains written := by
  have length := keeps.length
  have dropped := keeps.dropped
  have positive : max ring.capacity 1 = ring.capacity := by omega
  have cut : written.length - ring.capacity =
      written.length - min ring.capacity written.length := by omega
  rw [positive] at length
  have last : ring.records = written.drop (written.length - ring.capacity) := by
    rw [keeps.records, positive]
  refine ⟨cut ▸ last, length, by omega, by omega, written.take (written.length - ring.capacity),
    ?_, ?_⟩
  · rw [List.length_take, dropped]
    omega
  · rw [last, List.take_append_drop]

theorem Keeps.retains_nil {ring : Ring} (keeps : ring.Keeps []) : ring.Retains [] := by
  have records : ring.records = [] := by simpa using keeps.records
  have dropped : ring.dropped = 0 := by simpa using keeps.dropped
  exact ⟨by simp [records], by simp [records], by simp [records], by simp [records, dropped], [],
    by simp [dropped], by simp [records]⟩

/-- A ring retains what it should exactly if it has room for a record or nothing was written: else
it holds one record more than its capacity and has counted that record twice. -/
theorem retains_iff (capacity : Nat) (steps : List Step) :
    ((empty capacity).performAll steps).capacity = capacity ∧
      ((empty capacity).performAll steps).records =
        (written steps).drop ((written steps).length - max capacity 1) ∧
      ((empty capacity).performAll steps).dropped = (written steps).length - capacity ∧
      (((empty capacity).performAll steps).Retains (written steps) ↔
        0 < capacity ∨ written steps = []) := by
  have keeps := keeps_performAll capacity steps
  have same := capacity_performAll (empty capacity) steps
  generalize (empty capacity).performAll steps = ring at keeps same
  obtain rfl : ring.capacity = capacity := same
  have length := keeps.length
  refine ⟨rfl, keeps.records, keeps.dropped, ?_, ?_⟩
  · intro retains
    have bounded := retains.bounded
    rcases Nat.eq_zero_or_pos ring.capacity with none | room
    · exact .inr (List.eq_nil_of_length_eq_zero (by omega))
    · exact .inl room
  · rintro (room | nothing)
    · exact keeps.retains room
    · rw [nothing] at keeps ⊢
      exact keeps.retains_nil

def sample : Record :=
  ⟨0, .info, "t", "first", none⟩

theorem no_room_not_retains :
    ((empty 0).performAll [.write sample]).records = [sample] ∧
      ((empty 0).performAll [.write sample]).dropped = 1 ∧
      written [.write sample] = [sample] ∧
      ¬ ((empty 0).performAll [.write sample]).Retains (written [.write sample]) := by
  refine ⟨by decide, by decide, by decide, ?_⟩
  intro retains
  exact absurd retains.bounded (by decide)

end Ring

end Log

end Bootstrap
