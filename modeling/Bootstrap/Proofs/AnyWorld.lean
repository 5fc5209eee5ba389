import Bootstrap.Proofs.FixpointCheck
import Bootstrap.Proofs.TestRun

/-!
Steps of a run in any environment: whatever the collaborators answer, and whether or not they answer
alike when asked again, cells keep what they hold and entries are only added.
-/

namespace Bootstrap

/-- What has been built, or could not be, stays as it is. -/
def Cells.Extends (cells later : Cells) : Prop :=
  ∀ stage result, cells.built stage = some result → later.built stage = some result

theorem Cells.Extends.refl (cells : Cells) : cells.Extends cells :=
  fun _ _ known => known

theorem Cells.Extends.trans {first second third : Cells} (left : first.Extends second)
    (right : second.Extends third) : first.Extends third :=
  fun stage result known => right stage result (left stage result known)

theorem Cells.Extends.fill {cells later : Cells} (extend : cells.Extends later) {stage : Stage}
    (fresh : cells.built stage = none) (result : Except StageError Artifact) :
    cells.Extends (later.fill stage result) := by
  intro other known found
  have different : other ≠ stage := by
    intro same
    subst other
    simp [fresh] at found
  simp [Cells.fill, different, extend other known found]

def Stage.failure? (stage : Stage) : Except StageError Artifact → Option StageFailure
  | .ok _ => none
  | .error error => some ⟨stage, .stageUnavailable, error.message⟩

def Cells.failure? (cells : Cells) (stage : Stage) : Option StageFailure :=
  (cells.built stage).bind stage.failure?

theorem Cells.Extends.failure? {cells later : Cells} (extend : cells.Extends later) {stage : Stage}
    (asked : (cells.built stage).isSome = true) : later.failure? stage = cells.failure? stage := by
  obtain ⟨result, known⟩ := Option.isSome_iff_exists.mp asked
  simp [Cells.failure?, known, extend stage result known]

theorem Cells.Extends.isSome {cells later : Cells} (extend : cells.Extends later) {stage : Stage}
    (asked : (cells.built stage).isSome = true) : (later.built stage).isSome = true := by
  obtain ⟨result, known⟩ := Option.isSome_iff_exists.mp asked
  simp [extend stage result known]

theorem Cells.stage_of_failure? {cells : Cells} {stage : Stage} {failure : StageFailure}
    (failed : cells.failure? stage = some failure) : failure.stage = stage := by
  obtain ⟨result, _, reported⟩ := Option.bind_eq_some_iff.mp failed
  cases result with
  | ok artifact => simp [Stage.failure?] at reported
  | error error =>
      simp only [Stage.failure?, Option.some.injEq] at reported
      rw [← reported]
/-- The cells keep what they hold, and some entries are added to those there are. -/
structure Account.Grows (account after : Account) (told : List Entry) : Prop where
  cells : account.cells.Extends after.cells
  entries : after.entries = account.entries ++ told

namespace Account.Grows

variable {first second third : Account} {told others : List Entry}

theorem refl (account : Account) : account.Grows account [] :=
  ⟨Cells.Extends.refl _, (List.append_nil _).symm⟩

theorem trans (left : first.Grows second told) (right : second.Grows third others) :
    first.Grows third (told ++ others) :=
  ⟨left.cells.trans right.cells, by rw [right.entries, left.entries, List.append_assoc]⟩

theorem enter (account : Account) (entries : List Entry) :
    account.Grows (account.enter entries) entries :=
  ⟨Cells.Extends.refl _, rfl⟩

end Account.Grows

section

variable {World Engine Value : Type} {account : Account}

def AnyWorld (_ : World) (_ : Ledger Engine Unit) : Prop :=
  True

abbrev Run.Always {World α : Type} (Engine : Type) (account : Account) (step : Run World α)
    (outcome : α → Account → Prop) : Prop :=
  Run.Takes (AnyWorld : World → Ledger Engine Unit → Prop) account step outcome

theorem AnyWorld.logsApart (env : Environment World Engine Value) :
    env.LogsApart (AnyWorld : World → Ledger Engine Unit → Prop) :=
  fun _ _ _ _ _ => trivial

theorem AnyWorld.shows (session : Session World) :
    session.Shows (AnyWorld : World → Ledger Engine Unit → Prop)
      ⟨session.cells, session.entries, []⟩ :=
  ⟨rfl, rfl, trivial⟩

variable (env : Environment World Engine Value) (settings : Settings)

theorem AnyWorld.perform {α : Type} (action : Act World α) :
    Run.Always Engine account (Run.perform env action) fun _ after => after = account :=
  fun _ shows => ⟨account, rfl, shows.1, shows.2.1, trivial⟩

namespace Ladder

theorem memo_grows {stage : Stage} {construct : Run World (Except StageError Artifact)}
    (constructs : Run.Always Engine account construct fun _ after => account.Grows after []) :
    Run.Always Engine account (memo stage construct)
      fun answer after => account.Grows after [] ∧ after.cells.built stage = some answer := by
  cases known : account.cells.built stage with
  | some result =>
      refine (memo_known known).mono ?_
      rintro _ _ ⟨rfl, rfl⟩
      exact ⟨Account.Grows.refl _, known⟩
  | none =>
      refine (memo_fresh known constructs).mono ?_
      rintro answer _ ⟨middle, grows, rfl⟩
      exact ⟨⟨grows.cells.fill known answer, grows.entries⟩, by simp [Cells.fill]⟩

theorem keepSource_grows (result : Except StageError SourceUnit) :
    Run.Always Engine account
      (do
        modify fun session : Session World =>
          { session with cells := session.cells.fillSource result }
        return result) fun _ after => account.Grows after [] := by
  let filled : Account := { account with cells := account.cells.fillSource result }
  refine Run.Takes.bind (Run.Takes.change filled fun _ shows =>
    ⟨congrArg (Cells.fillSource · result) shows.1, shows.2.1, trivial⟩) ?_
  rintro _ _ rfl
  exact Run.Takes.pure ⟨fun _ _ known => known, (List.append_nil _).symm⟩

theorem compilerSource_grows (requester : Stage) :
    Run.Always Engine account (compilerSource env settings requester)
      fun _ after => account.Grows after [] := by
  refine Run.Takes.look.bind fun session after same => ?_
  obtain rfl := same.1
  cases session.cells.source with
  | some result => exact Run.Takes.pure (Account.Grows.refl _)
  | none =>
      refine (AnyWorld.perform env _).bind ?_
      rintro content _ rfl
      exact keepSource_grows _

theorem compileSource_grows (stage : Stage) (origin : Origin) (compiler : Compiler World) :
    Run.Always Engine account (compileSource env settings stage origin compiler)
      fun _ after => account.Grows after [] := by
  refine (compilerSource_grows env settings stage).bind fun found after grows => ?_
  cases found with
  | error error => exact Run.Takes.pure grows
  | ok source =>
      refine (AnyWorld.perform env _).bind ?_
      rintro _ _ rfl
      exact Run.Takes.pure grows

theorem constructFirst_grows :
    Run.Always Engine account (constructFirst env settings)
      fun _ after => account.Grows after [] := by
  unfold constructFirst
  split
  · refine (Run.Takes.say (AnyWorld.logsApart env) _ _ _).bind ?_
    rintro _ _ rfl
    refine (AnyWorld.perform env _).bind ?_
    rintro _ _ rfl
    exact Run.Takes.pure (Account.Grows.refl _)
  · exact compileSource_grows env settings _ _ _

/-- Whatever the collaborators do, an answer is kept, nothing kept is lost, and nothing is
reported. -/
theorem build_grows (stage : Stage) (account : Account) :
    Run.Always Engine account (build env settings stage)
      fun answer after => account.Grows after [] ∧ after.cells.built stage = some answer := by
  induction stage using Stage.ascend generalizing account with
  | first =>
      exact memo_grows
        (construct_takes (AnyWorld.logsApart env) (constructFirst_grows env settings))
  | next below stage above ih =>
      rw [build_next env settings above]
      refine memo_grows (construct_takes (AnyWorld.logsApart env) ?_)
      refine (ih account).bind fun previous middle grown => ?_
      cases previous with
      | error error => exact Run.Takes.pure grown.1
      | ok artifact =>
          refine (compileSource_grows env settings _ _ _).mono fun _ after later => ?_
          exact grown.1.trans later

theorem compiler_grows (stage : Stage) (account : Account) :
    Run.Always Engine account (Ladder.compiler env settings stage) fun compiler after =>
      account.Grows after [] ∧ ∃ built, after.cells.built stage = some built ∧
        compiler = built.map (compilerOf env settings) := by
  refine (build_grows env settings stage account).bind fun built after grown => ?_
  cases built <;> exact Run.Takes.pure ⟨grown.1, _, grown.2, rfl⟩

theorem build_known {stage : Stage} {session : Session World}
    {result : Except StageError Artifact} (known : session.cells.built stage = some result) :
    build env settings stage session = (result, session) := by
  rcases stage.first_or_next with rfl | ⟨below, above⟩
  · exact (memo_apply _ _ session).trans (by rw [known])
  · rw [build_next env settings above, memo_apply, known]

end Ladder

namespace Trials

structure Prepared (stages : List Stage) (candidates : List (Candidate World)) (cells : Cells) :
    Prop where
  staged : candidates.map Prod.fst = stages
  asked : ∀ stage ∈ stages, (cells.built stage).isSome = true
  failures : candidates.filterMap buildFailure? = stages.filterMap cells.failure?

theorem prepare_grows (stage : Stage) :
    Run.Always Engine account (prepare env settings stage) fun candidate after =>
      Prepared [stage] [candidate] after.cells ∧
        account.Grows after ((buildFailure? candidate).toList.map Basis.buildFailedEntry) := by
  refine (Ladder.compiler_grows env settings stage account).bind ?_
  rintro _ after ⟨grows, built, known, rfl⟩
  cases built with
  | ok artifact =>
      refine Run.Takes.pure ⟨⟨rfl, ?_, ?_⟩, grows⟩
      · simp [known]
      · simp [buildFailure?, Cells.failure?, Stage.failure?, known]
  | error error =>
      refine (Run.Takes.push _).bind ?_
      rintro _ _ rfl
      refine Run.Takes.pure ⟨⟨rfl, ?_, ?_⟩, grows.trans (Account.Grows.enter after _)⟩
      · simp [Account.enter, known]
      · simp [buildFailure?, Account.enter, Cells.failure?, Stage.failure?, known]

theorem Prepared.cons {stage : Stage} {candidate : Candidate World} {stages : List Stage}
    {candidates : List (Candidate World)} {cells later : Cells} (extend : cells.Extends later)
    (first : Prepared [stage] [candidate] cells) (rest : Prepared stages candidates later) :
    Prepared (stage :: stages) (candidate :: candidates) later where
  staged := by
    rw [List.map_cons, rest.staged]
    exact congrArg (· ++ stages) first.staged
  asked := by
    intro other member
    rcases List.mem_cons.mp member with rfl | later
    · exact extend.isSome (first.asked other List.mem_cons_self)
    · exact rest.asked other later
  failures := by
    have known := first.asked stage List.mem_cons_self
    have failure : [candidate].filterMap buildFailure? = [stage].filterMap later.failure? := by
      rw [first.failures]
      exact List.filterMap_congr fun other member => by
        rw [List.mem_singleton.mp member, extend.failure? known]
    have joined := congrArg₂ (· ++ ·) failure rest.failures
    simpa only [← List.filterMap_append, List.singleton_append] using joined

theorem prepareAll_grows (stages : List Stage) (account : Account) :
    Run.Always Engine account (prepareAll env settings stages) fun candidates after =>
      Prepared stages candidates after.cells ∧
        account.Grows after ((candidates.filterMap buildFailure?).map Basis.buildFailedEntry) := by
  induction stages generalizing account with
  | nil => exact Run.Takes.pure ⟨⟨rfl, by simp, rfl⟩, Account.Grows.refl account⟩
  | cons stage rest ih =>
      refine (prepare_grows env settings stage).bind ?_
      rintro candidate middle ⟨first, grows⟩
      refine (ih middle).bind ?_
      rintro candidates after ⟨others, later⟩
      refine Run.Takes.pure ⟨first.cons later.cells others, ?_⟩
      have told := grows.trans later
      rw [← List.map_append] at told
      convert told using 2
      cases failure : buildFailure? candidate <;> simp [failure]

theorem attempt_grows (test : TestCase) (candidate : Candidate World) :
    Run.Always Engine account (attempt env settings test candidate) fun answer after =>
      (answer.test, answer.stage) = (test.name, candidate.1) ∧
        after = account.enter [.attempt answer] := by
  have tried : Run.Always Engine account (outcome env settings test candidate.2)
      fun _ after => after = account := by
    cases candidate.2 with
    | ok compiler => exact AnyWorld.perform env _
    | error diagnostic => exact Run.Takes.pure rfl
  refine tried.bind ?_
  rintro _ _ rfl
  refine (Run.Takes.say (AnyWorld.logsApart env) _ _ _).bind ?_
  rintro _ _ rfl
  refine (Run.Takes.push _).bind ?_
  rintro _ _ rfl
  exact Run.Takes.pure ⟨rfl, rfl⟩

theorem attemptAll_grows (trials : List (TestCase × Candidate World)) (account : Account) :
    Run.Always Engine account (attemptAll env settings trials) fun answers after =>
      answers.map (fun attempt => (attempt.test, attempt.stage)) =
          trials.map (fun trial => (trial.1.name, trial.2.1)) ∧
        after = account.enter (answers.map Entry.attempt) := by
  induction trials generalizing account with
  | nil => exact Run.Takes.pure ⟨rfl, (account.enter_nil).symm⟩
  | cons trial rest ih =>
      refine (attempt_grows env settings trial.1 trial.2).bind ?_
      rintro first _ ⟨named, rfl⟩
      refine (ih _).bind ?_
      rintro others _ ⟨answered, rfl⟩
      refine Run.Takes.pure ⟨?_, ?_⟩
      · simp only [List.map_cons, answered, named]
      · simp

/-- A report is about these tests and generations, and has its failures to build from the cells. -/
structure Tells (stages : List Stage) (tests : List TestCase) (cells : Cells)
    (trials : TrialReport) : Prop where
  asked : ∀ stage ∈ stages, (cells.built stage).isSome = true
  failures : trials.buildFailures = stages.filterMap cells.failure?
  attempts : trials.attempts.map (fun attempt => (attempt.test, attempt.stage)) =
    tests.flatMap fun test => stages.map fun stage => (test.name, stage)
  report : trials.report = FailureReport.ofAttempts trials.attempts

theorem Tells.later {stages : List Stage} {tests : List TestCase} {cells later : Cells}
    {trials : TrialReport} (tells : Tells stages tests cells trials)
    (extend : cells.Extends later) : Tells stages tests later trials where
  asked := fun stage member => extend.isSome (tells.asked stage member)
  failures := tells.failures.trans
    (List.filterMap_congr fun stage member => (extend.failure? (tells.asked stage member)).symm)
  attempts := tells.attempts
  report := tells.report

theorem run_tells (tests : List TestCase) (account : Account) :
    Run.Always Engine account (run env settings tests) fun trials after =>
      Tells settings.selection.tested tests after.cells trials ∧
        account.Grows after
          (trials.buildFailures.map Basis.buildFailedEntry ++
            trials.attempts.map Entry.attempt) := by
  refine Run.Takes.within ?_
  refine (Run.Takes.say (AnyWorld.logsApart env) _ _ _).bind ?_
  rintro _ _ rfl
  refine (prepareAll_grows env settings _ _).bind ?_
  rintro candidates middle ⟨prepared, grows⟩
  refine (attemptAll_grows env settings _ _).bind ?_
  rintro attempts _ ⟨tried, rfl⟩
  refine (Run.Takes.say (AnyWorld.logsApart env) _ _ _).bind ?_
  rintro _ _ rfl
  refine Run.Takes.pure
    ⟨⟨prepared.asked, prepared.failures, ?_, rfl⟩, grows.trans (Account.Grows.enter middle _)⟩
  rw [tried, ← prepared.staged]
  simp [pairs, List.map_flatMap, Function.comp_def]

end Trials

namespace Fixpoint

theorem verify_grows (selection : Selection) (account : Account) :
    Run.Always Engine account (verify env settings selection)
      fun _ after => account.Grows after [] := by
  unfold verify
  split
  · split
    · exact Run.Takes.pure (Account.Grows.refl account)
    · refine Run.Takes.within ((Run.Takes.say (AnyWorld.logsApart env) _ _ _).bind ?_)
      rintro _ _ rfl
      refine (Ladder.build_grows env settings _ _).bind fun current middle grown => ?_
      cases current with
      | error error => exact Run.Takes.pure grown.1
      | ok current =>
          refine (Ladder.build_grows env settings _ middle).bind fun again after grows => ?_
          cases again with
          | error error => exact Run.Takes.pure (grown.1.trans grows.1)
          | ok again =>
              refine (judge_takes (AnyWorld.logsApart env) _ _ current again after).mono ?_
              rintro _ _ ⟨_, rfl⟩
              exact grown.1.trans grows.1
  · exact Run.Takes.pure (Account.Grows.refl account)

end Fixpoint
end

end Bootstrap
