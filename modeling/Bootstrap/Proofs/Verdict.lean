import Bootstrap.Proofs.SearchCrash
import Bootstrap.Proofs.StageFailures
import Bootstrap.Proofs.WholeRun

/-!
The verdict of a whole run: it passes exactly when every selected test passes under every tested
generation and the fixpoint, if asked for, is reached. A run whose search crashes has no verdict.
-/

namespace Bootstrap

namespace FailureReport

theorem isEmpty_record (report : FailureReport) (attempt : Attempt) :
    (report.record attempt).isEmpty = (report.isEmpty && attempt.outcome.isPassed) := by
  unfold record
  cases attempt.outcome with
  | passed value => simp [Outcome.isPassed]
  | failed failure =>
      have kept (key : String) (value : List StageFailure) :
          (report.failures.insert key value).isEmpty = false := by
        cases inserted : report.failures.insert key value with
        | nil =>
            have found := Table.get?_insert_self key value report.failures
            simp [inserted, Table.get?] at found
        | cons entry rest => rfl
      simp [isEmpty, Outcome.isPassed, kept]

theorem isEmpty_foldl_record (attempts : List Attempt) (report : FailureReport) :
    (attempts.foldl record report).isEmpty =
      (report.isEmpty && attempts.all fun attempt => attempt.outcome.isPassed) := by
  induction attempts generalizing report with
  | nil => simp
  | cons attempt rest ih => simp [ih, isEmpty_record, Bool.and_assoc]

/-- No failure is lost in the report, and none is invented. -/
theorem isEmpty_ofAttempts (attempts : List Attempt) :
    (ofAttempts attempts).isEmpty = attempts.all fun attempt => attempt.outcome.isPassed :=
  isEmpty_foldl_record attempts empty

end FailureReport

namespace Basis

variable {State Value : Type}

theorem buildFailures_isEmpty_iff (basis : Basis State Value) (reading : Reading) :
    (basis.buildFailures reading).isEmpty = true ↔
      ∀ stage ∈ basis.settings.selection.tested, ∃ artifact,
        basis.generation reading stage = .ok artifact := by
  unfold buildFailures
  rw [List.isEmpty_iff, List.filterMap_eq_nil_iff]
  refine forall₂_congr fun stage _ => ?_
  unfold buildFailure?
  cases basis.generation reading stage <;> simp

theorem attempts_all_passed_iff (basis : Basis State Value) (reading : Reading)
    (tests : List TestCase) :
    ((basis.attempts reading tests).all fun attempt => attempt.outcome.isPassed) = true ↔
      ∀ stage ∈ basis.settings.selection.tested, ∀ test ∈ tests,
        (basis.outcome reading test stage).isPassed = true := by
  simp only [attempts, block, List.all_flatMap, List.all_map, List.all_eq_true]
  exact ⟨fun all stage tested test member => all test member stage tested,
    fun all test member stage tested => all stage tested test member⟩

theorem report_passed_iff (basis : Basis State Value) (reading : Reading)
    (tests : List TestCase) :
    (basis.report reading tests).passed = true ↔
      ∀ stage ∈ basis.settings.selection.tested, ∃ artifact,
        basis.generation reading stage = .ok artifact ∧
          ∀ test ∈ tests, basis.oracle.Passes basis.settings.toolchain artifact.bytes test := by
  simp only [TrialReport.passed, report, Bool.and_eq_true, FailureReport.isEmpty_ofAttempts,
    attempts_all_passed_iff, buildFailures_isEmpty_iff]
  rw [← forall₂_and]
  refine forall₂_congr fun stage _ => ?_
  cases built : basis.generation reading stage with
  | error error => simp
  | ok artifact => simp [outcome, built, Oracle.isPassed_outcome_iff]

theorem wholeRun_passed_iff (basis : Basis State Value) (content : Content)
    (filter : Option String) :
    (∃ summary, basis.wholeRun content filter = .ok summary ∧ summary.passed = true) ↔
      ∃ tests, content.discover basis.settings.corpus = .ok tests ∧
        (∀ stage ∈ basis.settings.selection.tested, ∃ artifact,
          basis.generation (basis.readingOf content.read) stage = .ok artifact ∧
            ∀ test ∈ tests, Verification.isSelected filter test = true →
              basis.oracle.Passes basis.settings.toolchain artifact.bytes test) ∧
        ∃ proof, basis.verify (basis.readingOf content.read) basis.settings.selection =
          .ok proof := by
  unfold wholeRun
  cases content.discover basis.settings.corpus with
  | error error => simp
  | crash => simp
  | ok cases =>
      have passed := basis.report_passed_iff (basis.readingOf content.read)
        (cases.filter (Verification.isSelected filter))
      simp only [List.mem_filter, and_imp] at passed
      simp only [selectedRun, Result.ok.injEq, exists_eq_left', ← passed]
      cases basis.verify (basis.readingOf content.read) basis.settings.selection with
      | error error => simp
      | ok proof => simp [Summary.passed]

theorem wholeRun_crash_iff (basis : Basis State Value) (content : Content)
    (filter : Option String) :
    basis.wholeRun content filter = .crash ↔
      content.discover basis.settings.corpus = .crash := by
  unfold wholeRun
  cases content.discover basis.settings.corpus <;> simp

end Basis

namespace Verification

variable {World Engine State Value : Type} {env : Environment World Engine Value}
  {oracle : Oracle State Value} {settings : Settings} {content : Content}
  {Fits : World → Ledger Engine State → Prop}

theorem aborted_or_failed {result : Result RunError Summary} (calm : result ≠ .crash)
    (unpassed : ¬∃ summary, result = .ok summary ∧ summary.passed = true) :
    (∃ error, result = .error error) ∨
      ∃ summary, result = .ok summary ∧ summary.passed = false := by
  cases result with
  | ok summary =>
      refine .inr ⟨summary, rfl, Bool.eq_false_iff.mpr ?_⟩
      intro passed
      exact unpassed ⟨summary, rfl, passed⟩
  | error error => exact .inl ⟨error, rfl⟩
  | crash => exact absurd rfl calm

/-- A run passes exactly when the tests are found, each selected one passes under every tested
generation, and the fixpoint is reached if it is to be checked. It crashes exactly when the search
for tests does. In every other case it is aborted with an error or comes to a summary that does not
pass. -/
theorem run_passed_iff (settled : Settled env oracle content Fits) (filter : Option String)
    (world : World) (logger : Log.Logger) (fits : Fits world (.opened [])) :
    ∃ result session, run env settings filter (.start world logger) = (result, session) ∧
      ((∃ summary, result = .ok summary ∧ summary.passed = true) ↔
        ∃ tests, ((Corpus.discover env.files settings.corpus).alone world).answer = .ok tests ∧
          (∀ stage ∈ settings.selection.tested, ∃ artifact,
            (Ladder.build env settings stage (.start world logger)).1 = .ok artifact ∧
              ∀ test ∈ tests, isSelected filter test = true →
                oracle.Passes settings.toolchain artifact.bytes test) ∧
          (settings.selection.checksFixpoint = true → ∃ next current again,
            settings.selection.fixpointBase.next? = some next ∧
              (Ladder.build env settings settings.selection.fixpointBase
                (.start world logger)).1 = .ok current ∧
              (Ladder.build env settings next (.start world logger)).1 = .ok again ∧
              current.bytes = again.bytes)) ∧
      (result = .crash ↔ '/' ∈ settings.corpus.inputExtension.toList ∧
        Corpus.ShowsSource env.files settings.corpus (fun _ unchanged => unchanged) world) ∧
      (result ≠ .crash → ¬(∃ summary, result = .ok summary ∧ summary.passed = true) →
        (∃ error, result = .error error) ∨
          ∃ summary, result = .ok summary ∧ summary.passed = false) := by
  let basis : Basis State Value := ⟨oracle, settings⟩
  have known : Settled env basis.oracle content Fits := settled
  obtain ⟨answered, _⟩ := run_start known filter logger fits
  have discovered : ((Corpus.discover env.files settings.corpus).alone world).answer =
      content.discover settings.corpus := settled.discovered settings.corpus fits
  have built (stage : Stage) : (Ladder.build env settings stage (.start world logger)).1 =
      basis.generation (basis.readingOf content.read) stage :=
    Call.build_after known.deterministic [] (by simp) logger fits stage
  refine ⟨_, _, rfl, ?_, ?_, ?_⟩
  · rw [discovered]
    simp only [built]
    rw [← basis.verify_isOk_iff (basis.readingOf content.read) settings.selection]
    have whole := basis.wholeRun_passed_iff content filter
    rw [← answered] at whole
    exact whole
  · have searched := Corpus.discover_crashes env.files settings.corpus (fun _ unchanged => unchanged)
      world
    rw [← searched]
    refine (Eq.congr_left answered).trans ((basis.wholeRun_crash_iff content filter).trans ?_)
    exact (Eq.congr_left discovered).symm
  · exact aborted_or_failed

end Verification

namespace Toy

def reproducible : FileMap :=
  .ofList [(⟨"compiler/compiler.src"⟩, Utf8.encode "compiler x"),
    (⟨"tests/truth.src"⟩, Utf8.encode "test return #t")]

theorem reproducible_run_passed :
    ∃ tests, ((Corpus.discover (environment none false).files Settings.default.corpus).alone
        (World.start reproducible [])).answer = .ok tests ∧
      ∀ stage ∈ Settings.default.selection.tested, ∃ artifact,
        (Ladder.build (environment none false) .default stage
            (.start (World.start reproducible []) (Log.Logger.new .info 0))).1 = .ok artifact ∧
          ∀ test ∈ tests,
            (oracle none false).Passes Settings.default.toolchain artifact.bytes test := by
  have verdict : (Verification.run (environment none false) .default none
      (.start (World.start reproducible []) (Log.Logger.new .info 0))).1.toOption.map
        Summary.passed = some true := by decide +kernel
  obtain ⟨result, session, ran, passes, -, -⟩ :=
    Verification.run_passed_iff (settled none false reproducible []) none
      (World.start reproducible []) (Log.Logger.new .info 0) (frozen_start reproducible [])
  obtain ⟨summary, ended, passed⟩ := Option.map_eq_some_iff.mp verdict
  rw [ran] at ended
  obtain ⟨tests, discovered, all, -⟩ :=
    passes.mp ⟨summary, (Result.toOption_eq_some_iff _ _).mp ended, passed⟩
  refine ⟨tests, discovered, fun stage tested => ?_⟩
  obtain ⟨artifact, built, holds⟩ := all stage tested
  exact ⟨artifact, built, fun test member => holds test member rfl⟩

/-- The same files with a layout whose inputs would stand in directories of their own: the run does
not pass, and neither is it aborted with an error or comes to a summary that does not pass. -/
theorem reproducible_run_lost :
    let result := (Verification.run (environment none false)
      { Settings.default with corpus := Corpus.nested } none
      (.start (World.start reproducible []) (Log.Logger.new .info 0))).1
    ¬((∃ summary, result = .ok summary ∧ summary.passed = true) ∨
      (∃ error, result = .error error) ∨
        ∃ summary, result = .ok summary ∧ summary.passed = false) := by
  intro result
  have crashed : result = .crash := by decide +kernel
  rw [crashed]
  simp

end Toy

end Bootstrap
