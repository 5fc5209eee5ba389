import Bootstrap.CommandLine.Program
import Bootstrap.Proofs.ReportStream

/-!
What the command line makes of the entries of a run, beside what the run itself says: the summary
rebuilt from the entries is that of the run, the exit code follows the run whatever is printed, and
an aborted run still shows every attempt that was executed.
-/

namespace Bootstrap

section

variable {World Engine Value : Type}

/-- The attempts that a run executes, whether or not it is aborted afterwards. -/
def Verification.executed (env : Environment World Engine Value) (settings : Settings)
    (filter : Option String) (session : Session World) : List Attempt :=
  match search env settings session with
  | (.error _, _) => []
  | (.crash, _) => []
  | (.ok cases, searched) =>
      let tests := cases.filter (isSelected filter)
      (Trials.run env settings tests (opening env settings filter tests searched).2).1.attempts

end

def External.executed (tools : Tools) (family : Nat) (settings : Settings)
    (filter : Option String) (session : Session World) : List Attempt :=
  match Command.ofWords? settings.toolchain.runner with
  | none => []
  | some command =>
      match hostOf? tools settings with
      | none => []
      | some compiler =>
          Verification.executed (environment tools (runnerOf settings family command) compiler)
            settings filter session

namespace CommandLine

def Tally.ofTrials (trials : TrialReport) : Tally :=
  ⟨trials.attempts, trials.report,
    trials.buildFailures.map fun failure => (failure.stage, failure.diagnostic)⟩

def Tally.clean (tally : Tally) : Prop :=
  tally.testLines = [] ∧ tally.buildLines = []

/-- What the entries of a run come to agrees with what it returns and with the attempts it
executed. -/
structure Agrees (entries : List Entry) (returned : Except RunError Summary)
    (executed : List Attempt) : Prop where
  attempts : (Tally.ofEntries entries).attempts = executed
  rebuilt : ∀ summary, returned = .ok summary → Tally.ofEntries entries = .ofTrials summary.trials
  verdict : succeeded returned = true ↔ ∃ summary, returned = .ok summary ∧ summary.passed = true
  shown : ∀ summary, returned = .ok summary →
    (succeeded returned = true ↔ (Tally.ofEntries entries).clean)
  text : ∀ error, returned = .error error →
    ∃ notices : List Entry, notices.filterMap Entry.attempt? = [] ∧
    textLines entries returned = notices.filterMap Entry.line? ++ executed.map Attempt.line ++
      (Tally.ofEntries entries).lines ++ ["ABORTED"]
  json : ∀ error, returned = .error error →
    jsonOf entries returned = .object
      [("error", error.report.toJson), ("attempts", .array (executed.map Attempt.toJson))]

/-- A run that crashes has told nothing and tried nothing; what any other run returns agrees with
its entries. -/
inductive Accords (entries : List Entry) (executed : List Attempt) : Result RunError Summary → Prop
  | crashed (silent : entries = []) (untried : executed = []) : Accords entries executed .crash
  | returned {returned : Except RunError Summary} (agrees : Agrees entries returned executed) :
      Accords entries executed (.ofExcept returned)

theorem Accords.silent {entries : List Entry} {executed : List Attempt}
    {result : Result RunError Summary} (accords : Accords entries executed result)
    (crashed : result = .crash) : entries = [] := by
  cases accords with
  | crashed silent => exact silent
  | returned => exact absurd crashed (Result.ofExcept_ne_crash _)

end CommandLine

section

variable {World Engine Value : Type}

open CommandLine

end

namespace CommandLine

theorem startSession_start {settings : Settings} {logFile : Option Path} {time : Nat} {disk : Disk}
    {session : Session External.World}
    (started : startSession settings logFile time disk = .ok session) :
    ∃ world logger, session = .start world logger := by
  unfold startSession at started
  cases logFile with
  | none =>
      obtain rfl := Except.ok.inj started
      exact ⟨_, _, rfl⟩
  | some path =>
      dsimp only [External.logTo] at started
      split at started
      next logging opened =>
        split at opened
        next => cases opened
        next =>
          obtain rfl := Except.ok.inj opened
          obtain rfl := Except.ok.inj started
          exact ⟨_, _, rfl⟩
      next => cases started

/-- The command starts a run, which does not know how it will be printed, or it says why not. -/
theorem perform_cases (tools : Tools) (moment : Moment) (invocation : Invocation) (disk : Disk) :
    (∃ error, ∀ json, perform tools moment { invocation with json := json } disk = .error error) ∨
      ∃ settings world logger result session,
        readSettings disk invocation.config = .ok settings ∧
        External.run tools moment.family (invocation.applyTo settings) invocation.filter
          (.start world logger) = (result, session) ∧
        ∀ json, perform tools moment { invocation with json := json } disk =
          .ok (finish json result session) := by
  cases settled : readSettings disk invocation.config with
  | error error =>
      refine .inl ⟨error, fun json => ?_⟩
      simp only [perform, settled]
      rfl
  | ok settings =>
      have applied (json : Bool) :
          ({ invocation with json := json } : Invocation).applyTo settings =
            invocation.applyTo settings := rfl
      cases started : startSession (invocation.applyTo settings) invocation.logFile moment.time
          disk with
      | error error =>
          refine .inl ⟨error, fun json => ?_⟩
          simp only [perform, settled, applied, bind, Except.bind, started]
      | ok session =>
          obtain ⟨world, logger, rfl⟩ := startSession_start started
          refine .inr ⟨settings, world, logger, _, _, rfl, rfl, fun json => ?_⟩
          simp only [perform, settled, applied, bind, Except.bind, started]
          rfl

end CommandLine

end Bootstrap
