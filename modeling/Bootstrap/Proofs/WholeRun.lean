import Bootstrap.Proofs.Discovery
import Bootstrap.Proofs.FixpointCheck
import Bootstrap.Proofs.TestRun
import Bootstrap.Verification

/-!
Whole runs without memory: what discovery, the test run and the fixpoint check come to together when
the files stay as they are.
-/

namespace Bootstrap

namespace Basis

variable {State Value : Type}

def selectedRun (basis : Basis State Value) (reading : Reading) (tests : List TestCase) :
    Except RunError Summary :=
  match basis.verify reading basis.settings.selection with
  | .error error => .error error
  | .ok proof => .ok ⟨basis.report reading tests, proof⟩

def selectedEntries (basis : Basis State Value) (reading : Reading) (tests : List TestCase) :
    List Entry :=
  .info (Verification.heading basis.settings tests.length) :: basis.reportEntries reading tests ++
    match basis.verify reading basis.settings.selection with
    | .error _ => []
    | .ok proof => [.fixpoint proof]

def wholeRun (basis : Basis State Value) (content : Content) (filter : Option String) :
    Result RunError Summary :=
  match content.discover basis.settings.corpus with
  | .error error => .error (.corpus error)
  | .crash => .crash
  | .ok cases =>
      .ofExcept
        (basis.selectedRun (basis.readingOf content.read)
          (cases.filter (Verification.isSelected filter)))

def wholeEntries (basis : Basis State Value) (content : Content) (filter : Option String) :
    List Entry :=
  match content.discover basis.settings.corpus with
  | .error _ => []
  | .crash => []
  | .ok cases =>
      basis.selectedEntries (basis.readingOf content.read)
        (cases.filter (Verification.isSelected filter))

end Basis

namespace Verification

variable {World Engine State Value : Type} {env : Environment World Engine Value}
  {Fits : World → Ledger Engine State → Prop} {basis : Basis State Value} {content : Content}

theorem tellFilter_takes (apart : env.LogsApart Fits) (filter : Option String) (count : Nat)
    (account : Account) :
    Run.Takes Fits account (tellFilter env filter count) fun _ after => after = account := by
  cases filter with
  | none => exact Run.Takes.pure rfl
  | some text => exact Run.Takes.say apart _ _ _

theorem runSelected_takes
    (deterministic : Deterministic env basis.oracle (Basis.Steady content.read) Fits)
    (tests : List TestCase) (entries : List Entry) (events : List Event) :
    Run.Takes Fits ⟨basis.cells (basis.readingOf content.read) 0, entries, events⟩
      (runSelected env basis.settings tests) fun answer after =>
        answer = basis.selectedRun (basis.readingOf content.read) tests ∧ ∃ height asked,
          after = ⟨basis.cells (basis.readingOf content.read) height,
            entries ++ basis.selectedEntries (basis.readingOf content.read) tests, asked⟩ := by
  have apart := deterministic.logsApart
  have afterWarning : Run.Takes Fits
      ⟨basis.cells (basis.readingOf content.read) 0, entries, events⟩
      (do
        Run.push (.info (heading basis.settings tests.length))
        let trials ← Trials.run env basis.settings tests
        match ← Fixpoint.verify env basis.settings basis.settings.selection with
        | .error error => return .error error
        | .ok proof =>
            Run.push (.fixpoint proof)
            Run.say env .info Log.Target.run "Run completed"
            return .ok (Summary.mk trials proof)) fun answer after =>
        answer = basis.selectedRun (basis.readingOf content.read) tests ∧ ∃ height asked,
          after = ⟨basis.cells (basis.readingOf content.read) height,
            entries ++ basis.selectedEntries (basis.readingOf content.read) tests, asked⟩ := by
    refine Run.Takes.bind (Run.Takes.push _) ?_
    rintro _ _ rfl
    refine ((Trials.run_leads deterministic tests _ 0).steady _ _).bind ?_
    rintro _ _ ⟨rfl, rfl⟩
    refine ((Fixpoint.verify_leads deterministic basis.settings.selection _ _).steady _ _).bind ?_
    rintro _ _ ⟨rfl, rfl⟩
    unfold Basis.selectedRun Basis.selectedEntries
    cases basis.verify (basis.readingOf content.read) basis.settings.selection with
    | error error =>
        refine Run.Takes.pure ⟨rfl, _, _, congrArg (fun told => Account.mk _ told _) ?_⟩
        simp
    | ok proof =>
        refine Run.Takes.bind (Run.Takes.push _) ?_
        rintro _ _ rfl
        refine Run.Takes.bind (Run.Takes.say apart _ _ _) ?_
        rintro _ _ rfl
        refine Run.Takes.pure ⟨rfl, _, _, congrArg (fun told => Account.mk _ told _) ?_⟩
        simp
  unfold runSelected
  dsimp only
  split
  · refine Run.Takes.bind (Run.Takes.say apart _ _ _) ?_
    rintro _ _ rfl
    exact afterWarning
  · exact afterWarning

/-- A whole run comes to what plain recursion over the content says. -/
theorem run_takes (settled : Settled env basis.oracle content Fits) (filter : Option String)
    (entries : List Entry) (events : List Event) :
    Run.Takes Fits ⟨basis.cells (basis.readingOf content.read) 0, entries, events⟩
      (run env basis.settings filter) fun answer after =>
        answer = basis.wholeRun content filter ∧ ∃ height asked,
          after = ⟨basis.cells (basis.readingOf content.read) height,
            entries ++ basis.wholeEntries content filter, asked⟩ := by
  have apart := settled.deterministic.logsApart
  let found (answer : Result CorpusError (List TestCase)) (after : Account) : Prop :=
    answer = content.discover basis.settings.corpus ∧ ∃ asked,
      after = ⟨basis.cells (basis.readingOf content.read) 0, entries, asked⟩
  have discovers : Run.Takes Fits ⟨basis.cells (basis.readingOf content.read) 0, entries, events⟩
      (Run.perform env (Corpus.discover env.files basis.settings.corpus)) found := by
    refine Run.Takes.perform apart ((settled.discover basis.settings.corpus _).mono ?_)
    rintro _ _ ⟨answer, asked, rfl⟩
    exact ⟨events ++ asked, rfl, answer, events ++ asked, rfl⟩
  refine Run.Takes.bind (Run.Takes.say apart _ _ _) ?_
  rintro _ _ rfl
  refine discovers.bind ?_
  rintro _ _ ⟨rfl, asked, rfl⟩
  unfold Basis.wholeRun Basis.wholeEntries
  cases content.discover basis.settings.corpus with
  | error error => exact Run.Takes.pure ⟨rfl, 0, asked, by simp⟩
  | crash => exact Run.Takes.pure ⟨rfl, 0, asked, by simp⟩
  | ok cases =>
      refine Run.Takes.bind (tellFilter_takes apart filter _ _) ?_
      rintro _ _ rfl
      refine (runSelected_takes settled.deterministic _ entries asked).bind ?_
      rintro _ _ ⟨rfl, height, later, rfl⟩
      exact Run.Takes.pure ⟨rfl, height, later, rfl⟩

theorem run_shows (settled : Settled env basis.oracle content Fits) (filter : Option String)
    {world : World} (logger : Log.Logger) (fits : Fits world (.opened [])) :
    (run env basis.settings filter (.start world logger)).1 = basis.wholeRun content filter ∧
      ∃ height asked, (run env basis.settings filter (.start world logger)).2.Shows Fits
        ⟨basis.cells (basis.readingOf content.read) height, basis.wholeEntries content filter,
          asked⟩ := by
  have shows : (Session.start world logger).Shows Fits
      ⟨basis.cells (basis.readingOf content.read) 0, [], []⟩ :=
    ⟨(basis.cells_zero _).symm, rfl, fits⟩
  obtain ⟨_, ⟨answer, height, asked, rfl⟩, shown⟩ := run_takes settled filter [] [] _ shows
  exact ⟨answer, height, asked, shown⟩

theorem run_start (settled : Settled env basis.oracle content Fits) (filter : Option String)
    {world : World} (logger : Log.Logger) (fits : Fits world (.opened [])) :
    (run env basis.settings filter (.start world logger)).1 = basis.wholeRun content filter ∧
      (run env basis.settings filter (.start world logger)).2.entries =
        basis.wholeEntries content filter := by
  obtain ⟨answer, _, _, _, entries, _⟩ := run_shows settled filter logger fits
  exact ⟨answer, entries⟩

end Verification

end Bootstrap
