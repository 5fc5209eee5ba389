import Mathlib.Data.List.Nodup
import Mathlib.Data.List.TakeWhile
import Mathlib.Data.List.Induction
import Bootstrap.Report

/-!
The failure report as a grouping of attempts: under each test that failed stand its failures,
ascending by generation, those of one generation in the order of the attempts. The place of a new
failure can be found by halving, because what is there already is in order after every step.
-/

namespace Bootstrap

/-- Looks for the place in a range where a test stops passing, halving the range at each step. -/
def bisect (passes : Nat → Bool) : (steps low high : Nat) → Nat
  | 0, low, _ => low
  | steps + 1, low, high =>
      if low < high then
        if passes (low + (high - low) / 2) then
          bisect passes steps (low + (high - low) / 2 + 1) high
        else bisect passes steps low (low + (high - low) / 2)
      else low

theorem bisect_eq (passes : Nat → Bool) {steps low place high : Nat} (lower : low ≤ place)
    (upper : place ≤ high) (enough : high - low ≤ steps)
    (before : ∀ index, low ≤ index → index < place → passes index = true)
    (after : ∀ index, place ≤ index → index < high → passes index = false) :
    bisect passes steps low high = place := by
  induction steps generalizing low high with
  | zero =>
      rw [bisect]
      omega
  | succ steps ih =>
      rw [bisect]
      by_cases nonempty : low < high
      · rw [if_pos nonempty]
        by_cases below : low + (high - low) / 2 < place
        · rw [if_pos (before _ (by omega) below)]
          apply ih
          · omega
          · exact upper
          · omega
          · intro index from_ below
            exact before index (by omega) below
          · exact after
        · have fails := after (low + (high - low) / 2) (by omega) (by omega)
          rw [if_neg (by simp [fails])]
          apply ih
          · exact lower
          · omega
          · omega
          · exact before
          · intro index from_ below
            exact after index from_ (by omega)
      · rw [if_neg nonempty]
        omega

namespace StageFailure

def Ascending (failures : List StageFailure) : Prop :=
  failures.Pairwise fun earlier later => earlier.stage ≤ later.stage

def placeFor (stage : Stage) (present : List StageFailure) : Nat :=
  bisect (fun index => present[index]?.any fun other => decide (other.stage ≤ stage))
    present.length 0 present.length

structure Arranges (arranged recorded : List StageFailure) : Prop where
  ascending : Ascending arranged
  complete : arranged.Perm recorded
  stable : ∀ stage, arranged.filter (fun failure => decide (failure.stage = stage)) =
    recorded.filter fun failure => decide (failure.stage = stage)

theorem insertSorted_eq (failure : StageFailure) (present : List StageFailure) :
    failure.insertSorted present =
      present.takeWhile (fun other => decide (other.stage ≤ failure.stage)) ++
        failure :: present.dropWhile (fun other => decide (other.stage ≤ failure.stage)) := by
  induction present with
  | nil => rfl
  | cons other rest ih =>
      by_cases placed : other.stage ≤ failure.stage
      · simp [insertSorted, placed, ih]
      · simp [insertSorted, placed]

theorem later_of_mem_dropWhile (stage : Stage) {present : List StageFailure}
    (ascending : Ascending present) :
    ∀ other ∈ present.dropWhile (fun other => decide (other.stage ≤ stage)),
      stage < other.stage := by
  induction present with
  | nil => simp
  | cons first rest ih =>
      obtain ⟨least, ascending⟩ := List.pairwise_cons.mp ascending
      by_cases placed : first.stage ≤ stage
      · simpa [placed] using ih ascending
      · have above : stage < first.stage := Nat.lt_of_not_le placed
        intro other member
        simp only [placed, decide_false, List.dropWhile_cons, Bool.false_eq_true, if_false]
          at member
        rcases List.mem_cons.mp member with rfl | later
        · exact above
        · exact Nat.lt_of_lt_of_le above (least other later)

theorem placeFor_eq {stage : Stage} {present : List StageFailure} (ascending : Ascending present) :
    placeFor stage present =
      (present.takeWhile fun other => decide (other.stage ≤ stage)).length := by
  have later := later_of_mem_dropWhile stage ascending
  have earlier : ∀ other ∈ present.takeWhile (fun other => decide (other.stage ≤ stage)),
      other.stage ≤ stage := fun other member => by simpa using List.mem_takeWhile_imp member
  have whole := List.takeWhile_append_dropWhile
    (p := fun other : StageFailure => decide (other.stage ≤ stage)) (l := present)
  generalize present.takeWhile _ = front at earlier whole ⊢
  generalize present.dropWhile _ = back at later whole
  subst whole
  apply bisect_eq
  · exact Nat.zero_le _
  · simp
  · omega
  · intro index _ inFront
    have placed := earlier _ (List.getElem_mem inFront)
    simpa [List.getElem?_append_left inFront, List.getElem?_eq_getElem inFront] using placed
  · intro index behind inside
    rw [List.length_append] at inside
    rw [List.getElem?_append_right behind, List.getElem?_eq_getElem (by omega)]
    have above := later _ (List.getElem_mem (l := back) (n := index - front.length) (by omega))
    exact decide_eq_false (Nat.not_le_of_lt above)

theorem insertIdx_behind {α : Type} (front back : List α) (item : α) :
    (front ++ back).insertIdx front.length item = front ++ item :: back := by
  induction front with
  | nil => exact List.insertIdx_zero
  | cons first rest ih => exact List.insertIdx_succ_cons.trans (congrArg (first :: ·) ih)

/-- Seen from an ordered list, halving leads to the same place as looking at one after the other. -/
theorem insertSorted_eq_insertIdx (failure : StageFailure) {present : List StageFailure}
    (ascending : Ascending present) :
    failure.insertSorted present = present.insertIdx (placeFor failure.stage present) failure := by
  have whole := List.takeWhile_append_dropWhile
    (p := fun other : StageFailure => decide (other.stage ≤ failure.stage)) (l := present)
  rw [placeFor_eq ascending, insertSorted_eq, ← insertIdx_behind, whole]

theorem Arranges.insert {arranged recorded : List StageFailure}
    (arranges : Arranges arranged recorded) (failure : StageFailure) :
    Arranges (failure.insertSorted arranged) (recorded ++ [failure]) := by
  have later := later_of_mem_dropWhile failure.stage arranges.ascending
  have earlier : ∀ other ∈ arranged.takeWhile (fun other => decide (other.stage ≤ failure.stage)),
      other.stage ≤ failure.stage := fun other member => by
    simpa using List.mem_takeWhile_imp member
  have whole := List.takeWhile_append_dropWhile
    (p := fun other : StageFailure => decide (other.stage ≤ failure.stage)) (l := arranged)
  rw [insertSorted_eq]
  generalize arranged.takeWhile _ = front at earlier whole ⊢
  generalize arranged.dropWhile _ = back at later whole ⊢
  subst whole
  obtain ⟨frontAscending, backAscending, across⟩ := List.pairwise_append.mp arranges.ascending
  constructor
  · refine List.pairwise_append.mpr ⟨frontAscending, List.pairwise_cons.mpr ⟨?_, backAscending⟩, ?_⟩
    · intro other member
      exact Nat.le_of_lt (later other member)
    · intro first inFront second member
      rcases List.mem_cons.mp member with rfl | inBack
      · exact earlier first inFront
      · exact across first inFront second inBack
  · have moved : (front ++ failure :: back).Perm (failure :: (front ++ back)) := List.perm_middle
    exact (moved.trans (arranges.complete.cons failure)).trans (List.perm_append_singleton _ _).symm
  · intro stage
    have kept := arranges.stable stage
    rw [List.filter_append] at kept
    rw [List.filter_append, List.filter_append, ← kept, List.filter_cons, List.append_assoc]
    by_cases same : failure.stage = stage
    · -- what follows is of later generations
      have none : back.filter (fun other => decide (other.stage = stage)) = [] := by
        refine List.filter_eq_nil_iff.mpr fun other member => ?_
        have above := later other member
        rintro equal
        rw [decide_eq_true_eq] at equal
        rw [same, equal] at above
        exact Nat.lt_irrefl _ above
      simp [same, none]
    · simp [same]

theorem Arranges.nil : Arranges [] [] :=
  ⟨List.Pairwise.nil, List.Perm.nil, fun _ => rfl⟩

theorem Arranges.unique {arranged other recorded shuffled : List StageFailure}
    (arranges : Arranges arranged recorded) (arrangesOther : Arranges other shuffled)
    (perm : recorded.Perm shuffled) (distinct : (recorded.map StageFailure.stage).Nodup) :
    arranged = other := by
  -- sorted lists with the same members are equal once no two members have the same rank
  have same : arranged.Perm other :=
    (arranges.complete.trans perm).trans arrangesOther.complete.symm
  refine List.Perm.eq_of_pairwise ?_ arranges.ascending arrangesOther.ascending same
  intro first second inFirst inSecond below above
  have level : first.stage = second.stage := by
    have indices := Nat.le_antisymm below above
    revert indices
    cases first.stage <;> cases second.stage <;> decide
  exact List.inj_on_of_nodup_map distinct (arranges.complete.subset inFirst)
    (arranges.complete.subset (same.symm.subset inSecond)) level

end StageFailure

namespace Attempt

def failure? (attempt : Attempt) : Option StageFailure :=
  attempt.outcome.failure?.map fun failure => ⟨attempt.stage, failure.kind, failure.diagnostic⟩

def failuresOf (test : String) (attempts : List Attempt) : List StageFailure :=
  (attempts.filter fun attempt => decide (attempt.test = test)).filterMap failure?

theorem failure?_eq_none_iff (attempt : Attempt) :
    attempt.failure? = none ↔ attempt.outcome.isPassed = true := by
  unfold failure?
  cases attempt.outcome <;> simp [Outcome.failure?, Outcome.isPassed]

theorem stage_of_failure? {attempt : Attempt} {failure : StageFailure}
    (failed : attempt.failure? = some failure) : failure.stage = attempt.stage := by
  obtain ⟨_, _, rfl⟩ := Option.map_eq_some_iff.mp failed
  rfl

theorem failuresOf_concat (test : String) (attempts : List Attempt) (attempt : Attempt) :
    failuresOf test (attempts ++ [attempt]) =
      failuresOf test attempts ++ if attempt.test = test then attempt.failure?.toList else [] := by
  unfold failuresOf
  rw [List.filter_append, List.filterMap_append]
  by_cases same : attempt.test = test
  · cases left : attempt.failure? <;> simp [same, left]
  · simp [same]

theorem failuresOf_eq_nil_iff (test : String) (attempts : List Attempt) :
    failuresOf test attempts = [] ↔
      ¬∃ attempt ∈ attempts, attempt.test = test ∧ attempt.outcome.isPassed = false := by
  simp only [failuresOf, List.filterMap_eq_nil_iff, List.mem_filter, decide_eq_true_eq, and_imp,
    failure?_eq_none_iff, not_exists, not_and, Bool.not_eq_false]

theorem failuresOf_perm (test : String) {attempts others : List Attempt}
    (perm : attempts.Perm others) : (failuresOf test attempts).Perm (failuresOf test others) :=
  (perm.filter _).filterMap _

theorem stages_failuresOf_nodup {attempts : List Attempt}
    (once : (attempts.map fun attempt => (attempt.test, attempt.stage)).Nodup) (test : String) :
    ((failuresOf test attempts).map StageFailure.stage).Nodup := by
  have apart : (attempts.filter fun attempt => decide (attempt.test = test)).Pairwise
      fun first second => first.stage ≠ second.stage := by
    refine List.Pairwise.imp_of_mem ?_ ((List.pairwise_map.mp once).filter _)
    intro first second inFirst inSecond differ level
    have ofTest := of_decide_eq_true (List.mem_filter.mp inFirst).2
    have ofTestToo := of_decide_eq_true (List.mem_filter.mp inSecond).2
    exact differ (Prod.ext (ofTest.trans ofTestToo.symm) level)
  refine List.pairwise_map.mpr (List.Pairwise.filterMap _ ?_ apart)
  intro first second differ failure failed other failedToo
  rw [stage_of_failure? failed, stage_of_failure? failedToo]
  exact differ

end Attempt

namespace Table

variable {κ α : Type} [LT κ] [Std.Asymm (LT.lt : κ → κ → Prop)] {table other : Table κ α}

theorem nodup_keys (ascending : table.keys.Pairwise (· < ·)) : table.keys.Nodup := by
  refine ascending.imp fun {first second} below => ?_
  rintro rfl
  exact Std.Asymm.asymm first first below below

theorem eq_of_get? [DecidableEq κ] (ascending : table.keys.Pairwise (· < ·))
    (ascendingOther : other.keys.Pairwise (· < ·)) (same : ∀ key, table.get? key = other.get? key) :
    table = other := by
  have perm : table.Perm other := by
    rw [List.perm_ext_iff_of_nodup (nodup_keys ascending).of_map (nodup_keys ascendingOther).of_map]
    rintro ⟨key, value⟩
    constructor
    · intro member
      exact mem_of_get? (same key ▸ get?_of_mem (nodup_keys ascending) member)
    · intro member
      exact mem_of_get? ((same key).symm ▸ get?_of_mem (nodup_keys ascendingOther) member)
  refine List.Perm.eq_of_pairwise ?_ (List.pairwise_map.mp ascending)
    (List.pairwise_map.mp ascendingOther) perm
  intro first second _ _ below above
  exact absurd above (Std.Asymm.asymm _ _ below)

end Table

namespace FailureReport

open StageFailure

theorem record_of_passed {attempt : Attempt} (passed : attempt.failure? = none)
    (report : FailureReport) : report.record attempt = report := by
  unfold record
  unfold Attempt.failure? at passed
  cases outcome : attempt.outcome with
  | passed value => rfl
  | failed failure => simp [outcome, Outcome.failure?] at passed

theorem record_of_failed {attempt : Attempt} {failure : StageFailure}
    (failed : attempt.failure? = some failure) (report : FailureReport) :
    report.record attempt = ⟨report.failures.insert attempt.test
      (failure.insertSorted ((report.failuresFor? attempt.test).getD []))⟩ := by
  unfold record
  unfold Attempt.failure? at failed
  cases outcome : attempt.outcome with
  | passed value => simp [outcome, Outcome.failure?] at failed
  | failed reason =>
      obtain rfl : _ = failure := by simpa [outcome, Outcome.failure?] using failed
      rfl

structure Collects (report : FailureReport) (attempts : List Attempt) : Prop where
  keys : report.failures.keys.Pairwise (· < ·)
  present : ∀ test, test ∈ report.failures.keys ↔ Attempt.failuresOf test attempts ≠ []
  arranged : ∀ test,
    Arranges ((report.failuresFor? test).getD []) (Attempt.failuresOf test attempts)

theorem collects_empty : empty.Collects [] where
  keys := List.Pairwise.nil
  present := fun test => by simp [empty, Table.keys, Attempt.failuresOf]
  arranged := fun _ => Arranges.nil

theorem Collects.record {report : FailureReport} {attempts : List Attempt}
    (collects : report.Collects attempts) (attempt : Attempt) :
    (report.record attempt).Collects (attempts ++ [attempt]) := by
  cases left : attempt.failure? with
  | none =>
      have same (test : String) : Attempt.failuresOf test (attempts ++ [attempt]) =
          Attempt.failuresOf test attempts := by
        simp [Attempt.failuresOf_concat, left]
      rw [record_of_passed left]
      exact ⟨collects.keys, fun test => same test ▸ collects.present test,
        fun test => same test ▸ collects.arranged test⟩
  | some failure =>
      rw [record_of_failed left]
      constructor
      · exact Table.insert_ascending _ _ collects.keys
      · intro test
        rw [Table.mem_keys_insert, collects.present, Attempt.failuresOf_concat, left]
        by_cases same : attempt.test = test
        · simp [same]
        · simp [same, Ne.symm same]
      · intro test
        rw [Attempt.failuresOf_concat, left, failuresFor?]
        by_cases same : attempt.test = test
        · subst same
          rw [Table.get?_insert_self, if_pos rfl]
          exact (collects.arranged _).insert failure
        · rw [Table.get?_insert_ne (Ne.symm same), if_neg same, List.append_nil]
          exact collects.arranged test

theorem ofAttempts_concat (attempts : List Attempt) (attempt : Attempt) :
    ofAttempts (attempts ++ [attempt]) = (ofAttempts attempts).record attempt := by
  simp [ofAttempts]

theorem collects_ofAttempts (attempts : List Attempt) :
    (ofAttempts attempts).Collects attempts := by
  induction attempts using List.reverseRecOn with
  | nil => exact collects_empty
  | append_singleton attempts attempt ih =>
      rw [ofAttempts_concat]
      exact ih.record attempt

theorem Collects.ascending {report : FailureReport} {attempts : List Attempt}
    (collects : report.Collects attempts) {entry : String × List StageFailure}
    (member : entry ∈ report.failures) : Ascending entry.2 := by
  have found : report.failuresFor? entry.1 = some entry.2 :=
    Table.get?_of_mem (Table.nodup_keys collects.keys) member
  have arranged := (collects.arranged entry.1).ascending
  rwa [found] at arranged

theorem Collects.unique {report other : FailureReport} {attempts shuffled : List Attempt}
    (collects : report.Collects attempts) (collectsOther : other.Collects shuffled)
    (perm : attempts.Perm shuffled)
    (once : (attempts.map fun attempt => (attempt.test, attempt.stage)).Nodup) :
    report = other := by
  have same (test : String) : report.failures.get? test = other.failures.get? test := by
    have listed : (report.failuresFor? test).getD [] = (other.failuresFor? test).getD [] :=
      (collects.arranged test).unique (collectsOther.arranged test)
        (Attempt.failuresOf_perm test perm) (Attempt.stages_failuresOf_nodup once test)
    have there : test ∈ report.failures.keys ↔ test ∈ other.failures.keys := by
      rw [collects.present, collectsOther.present, ← List.length_pos_iff, ← List.length_pos_iff,
        (Attempt.failuresOf_perm test perm).length_eq]
    rw [← Table.isSome_get?_iff, ← Table.isSome_get?_iff] at there
    unfold failuresFor? at listed
    cases found : report.failures.get? test with
    | none =>
        cases foundToo : other.failures.get? test with
        | none => rfl
        | some _ => simp [found, foundToo] at there
    | some _ =>
        cases foundToo : other.failures.get? test with
        | none => simp [found, foundToo] at there
        | some _ => simpa [found, foundToo] using listed
  have reports := Table.eq_of_get? collects.keys collectsOther.keys same
  cases report
  cases other
  exact congrArg FailureReport.mk reports

/-- A test stands in the report exactly if it failed somewhere, with all its failures in order; each
step keeps that order, so that halving finds the place of the next failure. -/
theorem ofAttempts_groups (attempts : List Attempt) :
    (∀ test, test ∈ (ofAttempts attempts).failures.keys ↔
      ∃ attempt ∈ attempts, attempt.test = test ∧ attempt.outcome.isPassed = false) ∧
    (∀ test, Arranges (((ofAttempts attempts).failuresFor? test).getD [])
      (Attempt.failuresOf test attempts)) ∧
    (∀ count, ∀ entry ∈ (ofAttempts (attempts.take count)).failures, Ascending entry.2) ∧
    (∀ count attempt failure, attempts[count]? = some attempt → attempt.failure? = some failure →
      let present := ((ofAttempts (attempts.take count)).failuresFor? attempt.test).getD []
      (ofAttempts (attempts.take (count + 1))).failuresFor? attempt.test =
        some (present.insertIdx (placeFor attempt.stage present) failure)) ∧
    ((attempts.map fun attempt => (attempt.test, attempt.stage)).Nodup →
      ∀ others, attempts.Perm others → ofAttempts others = ofAttempts attempts) := by
  have collects := collects_ofAttempts attempts
  refine ⟨?_, collects.arranged, ?_, ?_, ?_⟩
  · intro test
    rw [collects.present, Ne, Attempt.failuresOf_eq_nil_iff, not_not]
  · intro count entry member
    exact (collects_ofAttempts _).ascending member
  · intro count attempt failure at_ failed
    have before := collects_ofAttempts (attempts.take count)
    rw [List.take_add_one, at_, Option.toList_some, ofAttempts_concat, record_of_failed failed,
      insertSorted_eq_insertIdx failure (before.arranged _).ascending,
      Attempt.stage_of_failure? failed]
    exact Table.get?_insert_self ..
  · intro once others perm
    exact (collects.unique (collects_ofAttempts others) perm once).symm

def interleaved : List Attempt :=
  [⟨"echo", .stage2, .failed ⟨.trap, "first"⟩⟩, ⟨"add", .stage0, .passed .yes⟩,
    ⟨"add", .stage1, .failed ⟨.load, "second"⟩⟩, ⟨"echo", .stage0, .failed ⟨.compile, "third"⟩⟩]

theorem interleaved_groups :
    (interleaved.map fun attempt => (attempt.test, attempt.stage)).Nodup ∧
      interleaved.Perm interleaved.reverse ∧
      ofAttempts interleaved.reverse = ofAttempts interleaved ∧
      (ofAttempts interleaved).failuresFor? "echo" =
        some ([⟨.stage2, .trap, "first"⟩].insertIdx 0 ⟨.stage0, .compile, "third"⟩) :=
  have groups := ofAttempts_groups interleaved
  have once : (interleaved.map fun attempt => (attempt.test, attempt.stage)).Nodup := by decide
  have reversed := interleaved.reverse_perm.symm
  ⟨once, reversed, groups.2.2.2.2 once _ reversed, groups.2.2.2.1 3 _ _ rfl rfl⟩

end FailureReport

end Bootstrap
