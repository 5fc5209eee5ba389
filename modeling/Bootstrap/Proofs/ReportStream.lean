import Bootstrap.Bulletin
import Bootstrap.Proofs.AnyWorld
import Bootstrap.Proofs.SearchCrash
import Bootstrap.Proofs.WholeRun
import Mathlib.Data.List.Nodup

/-!
The stream of entries of a run in any environment: whatever the collaborators answer, the entries,
the report and the failures to build tell the same story in the same order.
-/

namespace Bootstrap

theorem Cells.failures_ascending (cells : Cells) {stages : List Stage}
    (ascending : stages.Pairwise (· < ·)) :
    ((stages.filterMap cells.failure?).map StageFailure.stage).Pairwise (· < ·) := by
  rw [List.pairwise_map]
  refine ascending.filterMap cells.failure? fun lower higher less first failed second failing => ?_
  rw [stage_of_failure? failed, stage_of_failure? failing]
  exact less

theorem Stage.ne_of_lt {lower higher : Stage} (less : lower < higher) : lower ≠ higher := by
  rintro rfl
  exact Nat.lt_irrefl _ less

theorem Selection.tested_ascending (selection : Selection) :
    selection.tested.Pairwise (· < ·) :=
  List.Pairwise.filter _ (by decide)

theorem Entry.filterMap_attempt? (message : String) (failures : List StageFailure)
    (attempts : List Attempt) (proofs : List Convergence) :
    (Entry.info message :: (failures.map Basis.buildFailedEntry ++ attempts.map Entry.attempt ++
      proofs.map Entry.fixpoint)).filterMap attempt? = attempts := by
  have reported : (failures.map Basis.buildFailedEntry).filterMap attempt? = [] := by
    simp [List.filterMap_map, Basis.buildFailedEntry, attempt?]
  have tried : (attempts.map Entry.attempt).filterMap attempt? = attempts := by
    rw [List.filterMap_map]
    exact List.filterMap_some
  have proved : (proofs.map Entry.fixpoint).filterMap attempt? = [] := by
    simp [List.filterMap_map, attempt?]
  have headed (rest : List Entry) :
      (Entry.info message :: rest).filterMap attempt? = rest.filterMap attempt? := rfl
  rw [headed, List.filterMap_append, List.filterMap_append, reported, tried, proved,
    List.nil_append, List.append_nil]

theorem Trials.nodup_pairs {tests : List TestCase} {stages : List Stage}
    (named : (tests.map TestCase.name).Nodup) (different : stages.Nodup) :
    (tests.flatMap fun test => stages.map fun stage => (test.name, stage)).Nodup := by
  have product : (tests.map TestCase.name ×ˢ stages).Nodup := List.Nodup.product named different
  have same : tests.map TestCase.name ×ˢ stages =
      tests.flatMap fun test => stages.map fun stage => (test.name, stage) :=
    List.flatMap_map ..
  rwa [same] at product

section

variable {World Engine Value : Type} {account : Account}
  (env : Environment World Engine Value) (settings : Settings)

namespace Verification

def search : Run World (Result CorpusError (List TestCase)) := do
  Run.say env .info Log.Target.run "Starting run"
  Run.perform env (Corpus.discover env.files settings.corpus)

def announced (session : Session World) : Session World :=
  session.logged env ⟨.info, Log.Target.run, "Starting run"⟩

def opening (filter : Option String) (tests : List TestCase) : Run World Unit := do
  tellFilter env filter tests.length
  if tests.isEmpty then
    Run.say env .warn Log.Target.run ("no tests in " ++ settings.corpus.dir.text)
  Run.push (.info (heading settings tests.length))

def closing (trials : TrialReport) :
    Except RunError Convergence → Run World (Except RunError Summary)
  | .error error => return .error error
  | .ok proof => do
      Run.push (.fixpoint proof)
      Run.say env .info Log.Target.run "Run completed"
      return .ok ⟨trials, proof⟩

def trying (filter : Option String) (tests : List TestCase) :
    Run World (Except RunError Summary) := do
  opening env settings filter tests
  let trials ← Trials.run env settings tests
  let checked ← Fixpoint.verify env settings settings.selection
  closing env trials checked

theorem trying_eq (filter : Option String) (tests : List TestCase) :
    (do
      tellFilter env filter tests.length
      return Result.ofExcept (← runSelected env settings tests)) =
        (do return Result.ofExcept (← trying env settings filter tests)) := by
  unfold trying opening runSelected
  cases tests.isEmpty <;> rfl

def afterSearch (filter : Option String) :
    Result CorpusError (List TestCase) → Run World (Result RunError Summary)
  | .error error => return .error (.corpus error)
  | .crash => return .crash
  | .ok cases => do
      tellFilter env filter (cases.filter (isSelected filter)).length
      return .ofExcept (← runSelected env settings (cases.filter (isSelected filter)))

theorem run_apply (filter : Option String) (session : Session World) :
    run env settings filter session =
      match search env settings session with
      | (.error error, searched) => (.error (.corpus error), searched)
      | (.crash, searched) => (.crash, searched)
      | (.ok cases, searched) =>
          (trying env settings filter (cases.filter (isSelected filter)) searched).map .ofExcept
            id := by
  have chained : run env settings filter session =
      (fun found : Result CorpusError (List TestCase) × Session World =>
        afterSearch env settings filter found.1 found.2) (search env settings session) := rfl
  rw [chained]
  generalize search env settings session = found
  obtain ⟨answer, searched⟩ := found
  cases answer with
  | error error => rfl
  | crash => rfl
  | ok cases => exact congrFun (trying_eq env settings filter _) searched

theorem search_crashes_iff (session : Session World) :
    (search env settings session).1 = .crash ↔
      '/' ∈ settings.corpus.inputExtension.toList ∧
        Corpus.ShowsSource env.files settings.corpus ((announced env session).journal env)
          (announced env session).world :=
  Corpus.discover_crashes env.files settings.corpus _ _

theorem search_takes :
    Run.Always Engine account (search env settings) fun _ after => after = account := by
  refine (Run.Takes.say (AnyWorld.logsApart env) _ _ _).bind ?_
  rintro _ _ rfl
  exact AnyWorld.perform env _

theorem opening_takes (filter : Option String) (tests : List TestCase) :
    Run.Always Engine account (opening env settings filter tests) fun _ after =>
        after = account.enter [.info (heading settings tests.length)] := by
  refine (tellFilter_takes (AnyWorld.logsApart env) filter _ account).bind ?_
  rintro _ _ rfl
  dsimp only
  split
  · refine (Run.Takes.say (AnyWorld.logsApart env) _ _ _).bind ?_
    rintro _ _ rfl
    exact Run.Takes.push _
  · exact Run.Takes.push _

theorem closing_takes (trials : TrialReport) (checked : Except RunError Convergence) :
    Run.Always Engine account (closing env trials checked) fun answer after =>
        answer = checked.map (Summary.mk trials) ∧
          after = account.enter (checked.toOption.toList.map Entry.fixpoint) := by
  cases checked with
  | error error => exact Run.Takes.pure ⟨rfl, account.enter_nil.symm⟩
  | ok proof =>
      refine (Run.Takes.push _).bind ?_
      rintro _ _ rfl
      refine (Run.Takes.say (AnyWorld.logsApart env) _ _ _).bind ?_
      rintro _ _ rfl
      exact Run.Takes.pure ⟨rfl, rfl⟩

theorem search_congr {Other Worth : Type} {other : Environment World Other Worth}
    (files : other.files = env.files) (append : other.append = env.append) :
    search other settings = search env settings := by
  have logged : Session.logged other = Session.logged env := by
    funext session note
    simp only [Session.logged, Session.flush, append]
  have journal : Session.journal other = Session.journal env := by
    funext session
    rw [Session.journal, Session.journal, append]
  unfold search Run.say Run.perform
  rw [logged, journal, files]

/-- Once the tests are found, the session ends with a heading, what the report tells, and the proof
if there is one. -/
theorem trying_tells (filter : Option String) (tests : List TestCase) (searched : Session World) :
    ∃ trials tried checked proven session,
      Trials.run env settings tests (opening env settings filter tests searched).2 =
        (trials, tried) ∧
      Fixpoint.verify env settings settings.selection tried = (checked, proven) ∧
      trying env settings filter tests searched = (checked.map (Summary.mk trials), session) ∧
      Trials.Tells settings.selection.tested tests session.cells trials ∧
      session.entries = searched.entries ++ .info (heading settings tests.length) ::
        (trials.buildFailures.map Basis.buildFailedEntry ++ trials.attempts.map Entry.attempt ++
          checked.toOption.toList.map Entry.fixpoint) := by
  obtain ⟨_, rfl, begun⟩ := opening_takes env settings filter tests searched
    (AnyWorld.shows searched)
  obtain ⟨after, ⟨tells, told⟩, shown⟩ := Trials.run_tells env settings tests _ _ begun
  generalize tries : Trials.run env settings tests _ = trial at tells told shown
  obtain ⟨trials, tried⟩ := trial
  obtain ⟨last, quiet, shownLast⟩ :=
    Fixpoint.verify_grows env settings settings.selection _ _ shown
  generalize checks : Fixpoint.verify env settings settings.selection tried = check at shownLast
  obtain ⟨checked, proven⟩ := check
  obtain ⟨_, ⟨answer, rfl⟩, ended⟩ := closing_takes env trials checked _ shownLast
  have chained : trying env settings filter tests searched = closing env trials checked proven := by
    have opened : trying env settings filter tests searched =
        (fun trial : TrialReport × Session World =>
          (fun check : Except RunError Convergence × Session World =>
            closing env trial.1 check.1 check.2)
            (Fixpoint.verify env settings settings.selection trial.2))
          (Trials.run env settings tests (opening env settings filter tests searched).2) := rfl
    rw [opened, tries]
    dsimp only
    rw [checks]
  have entries : last.entries = _ := (told.trans quiet).entries
  refine ⟨trials, tried, checked, proven, _, rfl, checks, chained.trans (Prod.ext answer rfl),
    tells.later (ended.1 ▸ quiet.cells), ?_⟩
  simp [ended.2.1, Account.enter, entries]

/-- Host and engines are not asked for anything: whoever they are, the run is the same. -/
def AsksNobody (filter : Option String) (start : Session World) : Prop :=
  ∀ (Other Worth : Type) (other : Environment World Other Worth),
    other.files = env.files → other.append = env.append →
      run other settings filter start = run env settings filter start

theorem asksNobody_of_ne_ok {filter : Option String} {start : Session World}
    (noTests : ∀ cases, (search env settings start).1 ≠ .ok cases) :
    AsksNobody env settings filter start := by
  intro Other Worth other files append
  rw [run_apply, run_apply, search_congr env settings files append]
  generalize search env settings start = result at noTests
  obtain ⟨found, searched⟩ := result
  cases found with
  | error error => rfl
  | crash => rfl
  | ok cases => exact absurd rfl (noTests cases)

/-- The three accounts of a run, which are its entries, its report and its generations, agree. Of a
run whose search fails there is only the error, and of one whose search crashes there is nothing. -/
theorem run_stream (filter : Option String) (world : World) (logger : Log.Logger) :
    ∃ found searched answer session,
      search env settings (.start world logger) = (found, searched) ∧
      run env settings filter (.start world logger) = (answer, session) ∧
      (∀ error, found = .error error →
        answer = .error (.corpus error) ∧ session.entries = [] ∧
          AsksNobody env settings filter (.start world logger)) ∧
      (found = .crash → answer = .crash ∧ session.entries = [] ∧
        AsksNobody env settings filter (.start world logger)) ∧
      (found = .crash ↔ '/' ∈ settings.corpus.inputExtension.toList ∧
        Corpus.ShowsSource env.files settings.corpus
          ((announced env (.start world logger)).journal env)
          (announced env (.start world logger)).world) ∧
      ∀ cases, found = .ok cases →
        ∃ tests trials tried checked proven,
          tests = cases.filter (isSelected filter) ∧
          Trials.run env settings tests (opening env settings filter tests searched).2 =
            (trials, tried) ∧
          Fixpoint.verify env settings settings.selection tried = (checked, proven) ∧
          answer = .ofExcept (checked.map (Summary.mk trials)) ∧
          session.entries = .info (heading settings tests.length) ::
            (trials.buildFailures.map Basis.buildFailedEntry ++ trials.attempts.map Entry.attempt ++
              checked.toOption.toList.map Entry.fixpoint) ∧
          (∀ stage ∈ settings.selection.tested,
            (Ladder.build env settings stage session).2 = session) ∧
          trials.buildFailures = settings.selection.tested.filterMap (fun stage =>
            stage.failure? (Ladder.build env settings stage session).1) ∧
          settings.selection.tested.Pairwise (· < ·) ∧
          (trials.buildFailures.map StageFailure.stage).Pairwise (· < ·) ∧
          trials.attempts.map (fun attempt => (attempt.test, attempt.stage)) =
            (tests.flatMap fun test => settings.selection.tested.map fun stage =>
              (test.name, stage)) ∧
          ((tests.map TestCase.name).Nodup →
            (trials.attempts.map fun attempt => (attempt.test, attempt.stage)).Nodup) ∧
          session.entries.filterMap Entry.attempt? = trials.attempts ∧
          trials.report = FailureReport.ofAttempts trials.attempts := by
  obtain ⟨_, rfl, begun⟩ := search_takes env settings (.start world logger)
    (AnyWorld.shows (.start world logger))
  generalize searches : search env settings (.start world logger) = result at begun
  have crashes := search_crashes_iff env settings (.start world logger)
  have alone := @asksNobody_of_ne_ok _ _ _ env settings filter (.start world logger)
  have ran := run_apply env settings filter (.start world logger)
  obtain ⟨found, searched⟩ := result
  rw [searches] at ran crashes alone
  cases found with
  | error missing =>
      refine ⟨_, searched, _, searched, rfl, ran, ?_, by simp, crashes, by simp⟩
      intro error same
      cases same
      exact ⟨rfl, begun.2.1, alone (by simp)⟩
  | crash =>
      refine ⟨_, searched, _, searched, rfl, ran, by simp, ?_, crashes, by simp⟩
      intro _
      exact ⟨rfl, begun.2.1, alone (by simp)⟩
  | ok cases =>
      obtain ⟨trials, tried, checked, proven, session, tries, checks, tells, kept, entries⟩ :=
        trying_tells env settings filter (cases.filter (isSelected filter)) searched
      dsimp only at ran
      rw [tells] at ran
      refine ⟨_, searched, _, session, rfl, ran, by simp, by simp, crashes, ?_⟩
      intro cases same
      cases same
      have started : searched.entries = [] := begun.2.1
      rw [started] at entries
      have built : ∀ stage ∈ settings.selection.tested, ∃ result,
          session.cells.built stage = some result ∧
            Ladder.build env settings stage session = (result, session) := by
        intro stage member
        obtain ⟨result, known⟩ := Option.isSome_iff_exists.mp (kept.asked stage member)
        exact ⟨result, known, Ladder.build_known env settings known⟩
      refine ⟨_, trials, tried, checked, proven, rfl, tries, checks, rfl, entries, ?_, ?_, ?_, ?_,
        kept.attempts, ?_, ?_, kept.report⟩
      · intro stage member
        obtain ⟨result, _, same⟩ := built stage member
        rw [same]
      · rw [kept.failures]
        refine List.filterMap_congr fun stage member => ?_
        obtain ⟨result, known, same⟩ := built stage member
        simp [Cells.failure?, known, same]
      · exact settings.selection.tested_ascending
      · rw [kept.failures]
        exact Cells.failures_ascending _ settings.selection.tested_ascending
      · intro named
        rw [kept.attempts]
        exact Trials.nodup_pairs named (settings.selection.tested_ascending.imp Stage.ne_of_lt)
      · rw [entries]
        exact Entry.filterMap_attempt? _ _ _ _

end Verification

end

namespace Toy

def unpaired : FileMap :=
  .ofList [(⟨"tests/a.src"⟩, Utf8.encode "test return #t"), (⟨"tests/b.src"⟩, Utf8.encode "#error")]

/-- Of a run over two tests whose inputs would stand in directories of their own there is neither an
error of the search nor a stream that begins with a heading. -/
theorem unpaired_run_untold :
    let ran := Verification.run (environment none false)
      { Settings.default with corpus := Corpus.nested } none
      (.start (World.start unpaired []) (Log.Logger.new .info 0))
    ¬((∃ error, ran.1 = .error (.corpus error)) ∨
      ∃ message rest, ran.2.entries = .info message :: rest) := by
  intro ran
  have crashed : ran.1 = .crash := by decide +kernel
  have silent : ran.2.entries = [] := by decide +kernel
  rw [crashed, silent]
  simp

end Toy

end Bootstrap
