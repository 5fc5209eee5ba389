import Bootstrap.Proofs.Memo
import Bootstrap.Trials
import Mathlib.Data.List.Basic

/-!
Test runs without memory: each attempt is computed from its test and the plain recursion alone, and
a run over the cells makes exactly these attempts.
-/

namespace Bootstrap

def Stage.reach (height : Nat) (stages : List Stage) : Nat :=
  stages.foldl (fun reached stage => max reached (stage.index + 1)) height

theorem Stage.reach_cons (height : Nat) (stage : Stage) (rest : List Stage) :
    reach height (stage :: rest) = reach (max height (stage.index + 1)) rest :=
  rfl

theorem Stage.le_reach (stages : List Stage) (height : Nat) : height ≤ reach height stages := by
  induction stages generalizing height with
  | nil => exact Nat.le_refl height
  | cons stage rest ih => exact Nat.le_trans (Nat.le_max_left _ _) (ih _)

theorem Stage.index_lt_reach {stages : List Stage} {stage : Stage} (member : stage ∈ stages)
    (height : Nat) : stage.index < reach height stages := by
  induction stages generalizing height with
  | nil => simp at member
  | cons first rest ih =>
      rw [reach_cons]
      rcases List.mem_cons.mp member with rfl | later
      · have := le_reach rest (max height (stage.index + 1))
        omega
      · exact ih later _

theorem Stage.reach_le (stages : List Stage) {height : Nat} (low : height ≤ 4) :
    reach height stages ≤ 4 := by
  induction stages generalizing height with
  | nil => exact low
  | cons stage rest ih =>
      have below := stage.index_lt
      rw [reach_cons]
      exact ih (by omega)

namespace Basis

variable {State Value : Type}

def outcome (basis : Basis State Value) (reading : Reading) (test : TestCase) (stage : Stage) :
    Outcome :=
  match basis.generation reading stage with
  | .ok artifact => basis.oracle.outcome basis.settings.toolchain artifact.bytes test
  | .error error => .failed ⟨.stageUnavailable, error.message⟩

def attempt (basis : Basis State Value) (reading : Reading) (test : TestCase) (stage : Stage) :
    Attempt :=
  ⟨test.name, stage, basis.outcome reading test stage⟩

def block (basis : Basis State Value) (reading : Reading) (stages : List Stage)
    (test : TestCase) : List Attempt :=
  stages.map (basis.attempt reading test)

def attempts (basis : Basis State Value) (reading : Reading) (tests : List TestCase) :
    List Attempt :=
  tests.flatMap (basis.block reading basis.settings.selection.tested)

theorem attempts_eq_map (basis : Basis State Value) (reading : Reading)
    (tests : List TestCase) :
    basis.attempts reading tests =
      (tests.flatMap fun test =>
        basis.settings.selection.tested.map fun stage => (test, stage)).map
          fun trial => basis.attempt reading trial.1 trial.2 := by
  rw [List.map_flatMap]
  simp only [List.map_map]
  rfl

def buildFailure? (basis : Basis State Value) (reading : Reading) (stage : Stage) :
    Option StageFailure :=
  match basis.generation reading stage with
  | .ok _ => none
  | .error error => some ⟨stage, .stageUnavailable, error.message⟩

def buildFailures (basis : Basis State Value) (reading : Reading) : List StageFailure :=
  basis.settings.selection.tested.filterMap (basis.buildFailure? reading)

def report (basis : Basis State Value) (reading : Reading) (tests : List TestCase) :
    TrialReport :=
  ⟨basis.attempts reading tests, FailureReport.ofAttempts (basis.attempts reading tests),
    basis.buildFailures reading⟩

theorem outcome_of_agree {basis : Basis State Value} {reading other : Reading} {height : Nat}
    (agree : basis.Agree height reading other) (test : TestCase) {stage : Stage}
    (below : stage.index < height) :
    basis.outcome other test stage = basis.outcome reading test stage := by
  simp [outcome, generation_of_agree agree stage below]

theorem report_of_agree {basis : Basis State Value} {reading other : Reading} {height : Nat}
    (agree : basis.Agree height reading other)
    (below : ∀ stage ∈ basis.settings.selection.tested, stage.index < height)
    (tests : List TestCase) : basis.report other tests = basis.report reading tests := by
  have attempts : basis.attempts other tests = basis.attempts reading tests := by
    unfold Basis.attempts block
    congr 1
    funext test
    exact List.map_congr_left fun stage member => by
      simp [attempt, outcome_of_agree agree test (below stage member)]
  have failures : basis.buildFailures other = basis.buildFailures reading :=
    List.filterMap_congr fun stage member => by
      simp [buildFailure?, generation_of_agree agree stage (below stage member)]
  rw [report, report, attempts, failures]

def buildFailedEntry (failure : StageFailure) : Entry :=
  .buildFailed failure.stage failure.diagnostic

def reportEntries (basis : Basis State Value) (reading : Reading) (tests : List TestCase) :
    List Entry :=
  (basis.buildFailures reading).map buildFailedEntry ++
    (basis.attempts reading tests).map Entry.attempt

def attemptEvents (basis : Basis State Value) (reading : Reading) (stage : Stage) : List Event :=
  match basis.generation reading stage with
  | .ok _ => basis.oracle.attemptEvents
  | .error _ => []

def runEvents (basis : Basis State Value) (reading : Reading) (height : Nat)
    (tests : List TestCase) : List Event :=
  basis.eventsBetween reading height (Stage.reach height basis.settings.selection.tested) ++
    tests.flatMap fun _ =>
      basis.settings.selection.tested.flatMap (basis.attemptEvents reading)

end Basis

namespace Trials

variable {World Engine State Value : Type} {env : Environment World Engine Value}
  {Fits : World → Ledger Engine State → Prop} {basis : Basis State Value}
  {MayRead : Path → Except FileError Bytes → Prop}

def candidateOf (env : Environment World Engine Value) (basis : Basis State Value)
    (reading : Reading) (stage : Stage) : Candidate World :=
  match basis.generation reading stage with
  | .ok artifact => (stage, .ok (Ladder.compilerOf env basis.settings artifact))
  | .error error => (stage, .error error.message)

theorem prepare_leads (deterministic : Deterministic env basis.oracle MayRead Fits)
    (stage : Stage) (reading : Reading) (height : Nat) :
    basis.Leads MayRead Fits reading height (fun _ => max height (stage.index + 1))
      (prepare env basis.settings stage) (fun other => candidateOf env basis other stage)
      (fun other => (basis.buildFailure? other stage).toList.map Basis.buildFailedEntry)
      (fun other => basis.eventsBetween other height (max height (stage.index + 1))) := by
  intro entries events possible
  refine (Ladder.compiler_leads deterministic stage reading height entries events possible).bind ?_
  rintro _ _ ⟨other, agree, may, rfl, rfl⟩
  unfold Ladder.compilerFor candidateOf Basis.buildFailure?
  dsimp only
  cases built : basis.generation other stage with
  | ok artifact => exact Run.Takes.pure ⟨other, agree, may, by rw [built], by simp [built]⟩
  | error error =>
      refine Run.Takes.bind (Run.Takes.push _) ?_
      rintro _ _ rfl
      refine Run.Takes.pure ⟨other, agree, may, by rw [built], ?_⟩
      simp [built, Account.enter, Basis.buildFailedEntry]

theorem candidateOf_of_agree {reading other : Reading} {height : Nat}
    (agree : basis.Agree height reading other) (stage : Stage) (below : stage.index < height) :
    candidateOf env basis other stage = candidateOf env basis reading stage := by
  simp [candidateOf, Basis.generation_of_agree agree stage below]

theorem prepareAll_leads (deterministic : Deterministic env basis.oracle MayRead Fits)
    (stages : List Stage) (reading : Reading) (height : Nat) :
    basis.Leads MayRead Fits reading height (fun _ => Stage.reach height stages)
      (prepareAll env basis.settings stages)
      (fun other => stages.map (candidateOf env basis other))
      (fun other => (stages.filterMap (basis.buildFailure? other)).map Basis.buildFailedEntry)
      (fun other => basis.eventsBetween other height (Stage.reach height stages)) := by
  induction stages generalizing reading height with
  | nil =>
      have unmoved : Stage.reach height [] = height := rfl
      simp only [unmoved, List.map_nil, List.filterMap_nil, Basis.eventsBetween_self]
      exact Basis.Leads.pure fun _ => []
  | cons stage rest ih =>
      intro entries events possible
      have rises : height ≤ max height (stage.index + 1) := Nat.le_max_left _ _
      refine (prepare_leads deterministic stage reading height entries events possible).bind ?_
      rintro _ _ ⟨other, agree, may, rfl, rfl⟩
      refine (ih other _ _ _ may).bind ?_
      rintro _ _ ⟨another, later, possibly, rfl, rfl⟩
      have below : stage.index < max height (stage.index + 1) := by omega
      have same := Basis.generation_of_agree later stage below
      refine Run.Takes.pure ⟨another, agree.trans (later.mono rises), possibly, ?_, ?_⟩
      · simp [candidateOf_of_agree later stage below]
      · have failures : basis.buildFailure? other stage = basis.buildFailure? another stage := by
          simp [Basis.buildFailure?, same]
        have asked := basis.eventsBetween_append another rises (Stage.le_reach rest _)
        rw [Basis.eventsBetween_of_agree later] at asked
        dsimp only
        rw [Stage.reach_cons, ← asked, failures]
        cases failure : basis.buildFailure? another stage <;> simp [failure]

theorem attempt_takes (deterministic : Deterministic env basis.oracle MayRead Fits)
    (reading : Reading) (test : TestCase) (stage : Stage) (account : Account) :
    Run.Takes Fits account (attempt env basis.settings test (candidateOf env basis reading stage))
      fun answer after =>
        answer = basis.attempt reading test stage ∧
          after = (account.enter [.attempt (basis.attempt reading test stage)]).ask
            (basis.attemptEvents reading stage) := by
  have outcomes : Run.Takes Fits account
      (outcome env basis.settings test (candidateOf env basis reading stage).2)
      fun answer after => answer = basis.outcome reading test stage ∧
        after = account.ask (basis.attemptEvents reading stage) := by
    unfold candidateOf Basis.outcome Basis.attemptEvents
    cases basis.generation reading stage with
    | error error => exact Run.Takes.pure ⟨rfl, by simp⟩
    | ok artifact =>
        exact Run.Takes.ask deterministic.logsApart
          (deterministic.attempt basis.settings.toolchain artifact.bytes test)
  have named : (candidateOf env basis reading stage).1 = stage := by
    unfold candidateOf
    split <;> rfl
  refine outcomes.bind ?_
  rintro _ _ ⟨rfl, rfl⟩
  refine Run.Takes.bind (Run.Takes.say deterministic.logsApart _ _ _) ?_
  rintro _ _ rfl
  refine Run.Takes.bind (Run.Takes.push _) ?_
  rintro _ _ rfl
  refine Run.Takes.pure ⟨?_, ?_⟩
  · simp [named, Basis.attempt]
  · simp [named, Basis.attempt, Account.ask_enter]

theorem attemptAll_takes (deterministic : Deterministic env basis.oracle MayRead Fits)
    (reading : Reading) (trials : List (TestCase × Stage)) (account : Account) :
    Run.Takes Fits account
      (attemptAll env basis.settings
        (trials.map fun trial => (trial.1, candidateOf env basis reading trial.2)))
      fun answer after =>
        answer = trials.map (fun trial => basis.attempt reading trial.1 trial.2) ∧
          after = (account.enter
            (trials.map fun trial => .attempt (basis.attempt reading trial.1 trial.2))).ask
              (trials.flatMap fun trial => basis.attemptEvents reading trial.2) := by
  induction trials generalizing account with
  | nil => exact Run.Takes.pure ⟨rfl, by simp⟩
  | cons trial rest ih =>
      refine (attempt_takes deterministic reading trial.1 trial.2 account).bind ?_
      rintro _ _ ⟨rfl, rfl⟩
      refine (ih _).bind ?_
      rintro _ _ ⟨rfl, rfl⟩
      refine Run.Takes.pure ⟨rfl, ?_⟩
      simp [Account.ask_enter]

theorem pairs_candidates (tests : List TestCase) (stages : List Stage) (reading : Reading) :
    pairs tests (stages.map (candidateOf env basis reading)) =
      (tests.flatMap fun test => stages.map fun stage => (test, stage)).map
        fun trial => (trial.1, candidateOf env basis reading trial.2) := by
  simp [pairs, List.map_flatMap, Function.comp_def]

theorem buildFailure?_candidateOf (reading : Reading) (stage : Stage) :
    buildFailure? (candidateOf env basis reading stage) = basis.buildFailure? reading stage := by
  unfold candidateOf Basis.buildFailure?
  cases basis.generation reading stage <;> rfl

/-- A test run makes the attempts of the recursion, each once and test by test, and reports what it
cannot build. -/
theorem run_leads (deterministic : Deterministic env basis.oracle MayRead Fits)
    (tests : List TestCase) (reading : Reading) (height : Nat) :
    basis.Leads MayRead Fits reading height
      (fun _ => Stage.reach height basis.settings.selection.tested)
      (run env basis.settings tests) (fun other => basis.report other tests)
      (fun other => basis.reportEntries other tests)
      (fun other => basis.runEvents other height tests) := by
  refine Basis.Leads.within (Basis.Leads.after_say deterministic.logsApart ?_)
  intro entries events possible
  refine (prepareAll_leads deterministic basis.settings.selection.tested reading height entries
    events possible).bind ?_
  rintro _ _ ⟨other, agree, may, rfl, rfl⟩
  dsimp only
  rw [pairs_candidates]
  refine (attemptAll_takes deterministic other _ _).bind ?_
  rintro _ _ ⟨rfl, rfl⟩
  refine Run.Takes.bind (Run.Takes.say deterministic.logsApart _ _ _) ?_
  rintro _ _ rfl
  rw [← basis.attempts_eq_map]
  refine Run.Takes.pure ⟨other, agree, may, ?_, ?_⟩
  · simp [Basis.report, Basis.buildFailures, List.filterMap_map, buildFailure?_candidateOf]
  · simp [Basis.reportEntries, Basis.runEvents, basis.attempts_eq_map, Basis.buildFailures,
      List.flatMap_assoc, List.flatMap_map, Function.comp_def, Account.enter, Account.ask]

end Trials

end Bootstrap
