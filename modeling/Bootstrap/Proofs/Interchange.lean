import Bootstrap.Proofs.Isolation
import Bootstrap.Proofs.StageFailures

/-!
Where the first generation comes from does not matter: if the host makes the same bytes that the
snapshot holds, everything above it and every report goes the same way, failures included.
-/

namespace Bootstrap

def Settings.usingSnapshot (settings : Settings) (uses : Bool) : Settings :=
  settings.selecting { settings.selection with useSnapshot := uses }

namespace Basis

variable {State Value : Type}

/-- Two recursions that differ in nothing but the origins of what they build. -/
structure Alike (left right : Basis State Value) (reading other : Reading) : Prop where
  oracle : left.oracle = right.oracle
  toolchain : left.settings.toolchain = right.settings.toolchain
  tested : left.settings.selection.tested = right.settings.selection.tested
  checks : left.settings.selection.checksFixpoint = right.settings.selection.checksFixpoint
  bytes : ∀ stage, (left.generation reading stage).map Artifact.bytes =
    (right.generation other stage).map Artifact.bytes

namespace Alike

variable {left right : Basis State Value} {reading other : Reading}

theorem generations (alike : left.Alike right reading other) (stage : Stage) :
    (∃ error, left.generation reading stage = .error error ∧
        right.generation other stage = .error error) ∨
      ∃ first second, left.generation reading stage = .ok first ∧
        right.generation other stage = .ok second ∧ first.bytes = second.bytes := by
  have same := alike.bytes stage
  cases built : left.generation reading stage with
  | error error =>
      cases rebuilt : right.generation other stage with
      | error another =>
          simp only [built, rebuilt, Except.map, Except.error.injEq] at same
          exact .inl ⟨error, rfl, by rw [same]⟩
      | ok artifact => simp [built, rebuilt, Except.map] at same
  | ok first =>
      cases rebuilt : right.generation other stage with
      | error error => simp [built, rebuilt, Except.map] at same
      | ok second =>
          simp only [built, rebuilt, Except.map, Except.ok.injEq] at same
          exact .inr ⟨first, second, rfl, rfl, same⟩

theorem outcome (alike : left.Alike right reading other) (test : TestCase) (stage : Stage) :
    left.outcome reading test stage = right.outcome other test stage := by
  unfold Basis.outcome
  rcases alike.generations stage with ⟨error, first, second⟩ | ⟨_, _, first, second, same⟩
  · rw [first, second]
  · rw [first, second]
    simp only [alike.oracle, alike.toolchain, same]

theorem buildFailure? (alike : left.Alike right reading other) (stage : Stage) :
    left.buildFailure? reading stage = right.buildFailure? other stage := by
  unfold Basis.buildFailure?
  rcases alike.generations stage with ⟨error, first, second⟩ | ⟨_, _, first, second, _⟩
  · rw [first, second]
  · rw [first, second]

theorem report (alike : left.Alike right reading other) (tests : List TestCase) :
    left.report reading tests = right.report other tests := by
  have attempts : left.attempts reading tests = right.attempts other tests := by
    unfold Basis.attempts block
    rw [alike.tested]
    congr 1
    funext test
    exact List.map_congr_left fun stage _ => by simp only [attempt, alike.outcome]
  have failures : left.buildFailures reading = right.buildFailures other := by
    unfold buildFailures
    rw [alike.tested]
    exact List.filterMap_congr fun stage _ => alike.buildFailure? stage
  rw [Basis.report, Basis.report, attempts, failures]

theorem compare (alike : left.Alike right reading other) (base next : Stage) :
    left.compare reading base next = right.compare other base next := by
  unfold Basis.compare
  rcases alike.generations base with ⟨error, first, second⟩ | ⟨current, _, first, second, same⟩
  · rw [first, second]
  · rw [first, second]
    rcases alike.generations next with ⟨error, third, fourth⟩ | ⟨again, _, third, fourth, still⟩
    · rw [third, fourth]
    · rw [third, fourth]
      simp only [judge, Artifact.size, Artifact.digest, same, still]

theorem verify (alike : left.Alike right reading other) :
    left.verify reading left.settings.selection = right.verify other right.settings.selection := by
  have base : left.settings.selection.fixpointBase = right.settings.selection.fixpointBase := by
    unfold Selection.fixpointBase
    rw [alike.tested]
  unfold Basis.verify
  simp only [alike.compare, alike.checks, base]

theorem selectedRun (alike : left.Alike right reading other) (tests : List TestCase) :
    left.selectedRun reading tests = right.selectedRun other tests := by
  unfold Basis.selectedRun
  rw [alike.verify, alike.report]

theorem selectedEntries (alike : left.Alike right reading other) (tests : List TestCase) :
    left.selectedEntries reading tests = right.selectedEntries other tests := by
  have entries : left.reportEntries reading tests = right.reportEntries other tests :=
    congrArg (fun report : TrialReport =>
      report.buildFailures.map buildFailedEntry ++ report.attempts.map Entry.attempt)
      (alike.report tests)
  unfold Basis.selectedEntries Verification.heading
  rw [alike.verify, alike.tested, entries]

theorem whole {content other : Content}
    (alike : left.Alike right (left.readingOf content.read) (right.readingOf other.read))
    (found : content.discover left.settings.corpus = other.discover right.settings.corpus)
    (filter : Option String) :
    left.wholeRun content filter = right.wholeRun other filter ∧
      left.wholeEntries content filter = right.wholeEntries other filter := by
  unfold wholeRun wholeEntries
  rw [found]
  cases other.discover right.settings.corpus with
  | error error => exact ⟨rfl, rfl⟩
  | crash => exact ⟨rfl, rfl⟩
  | ok cases => exact ⟨congrArg Result.ofExcept (alike.selectedRun _), alike.selectedEntries _⟩

end Alike

structure SameStart (oracle : Oracle State Value) (settings : Settings) (reading other : Reading)
    (artifact : Bytes) : Prop where
  source : ∃ source, reading.source = .ok source ∧ other.source = .ok source ∧
    oracle.host ⟨"compiler", settings.locations.compilerSource, source⟩ = .ok artifact
  snapshot : other.snapshot = .ok artifact
  filled : artifact ≠ []

namespace SameStart

variable {oracle : Oracle State Value} {settings : Settings} {reading other : Reading}
  {artifact : Bytes}

theorem hosted (start : SameStart oracle settings reading other artifact) :
    (Basis.mk oracle (settings.usingSnapshot false)).generation reading .stage0 =
      .ok ⟨.stage0, .host, artifact⟩ := by
  obtain ⟨source, read, _, answer⟩ := start.source
  have compiles : oracle.host ((Basis.mk oracle (settings.usingSnapshot false)).unit source) =
      .ok artifact := answer
  have host : (Basis.mk oracle (settings.usingSnapshot false)).usesSnapshot = false := rfl
  simp [generation_stage0, first, host, compiled, read, sourceUnit, compiles, Ladder.accept,
    start.filled]

theorem loaded (start : SameStart oracle settings reading other artifact) :
    (Basis.mk oracle (settings.usingSnapshot true)).generation other .stage0 =
      .ok ⟨.stage0, .snapshot, artifact⟩ := by
  have uses : (Basis.mk oracle (settings.usingSnapshot true)).usesSnapshot = true := rfl
  simp [generation_stage0, first, uses, start.snapshot, Ladder.acceptSnapshot, start.filled]

theorem next (start : SameStart oracle settings reading other artifact) (below stage : Stage)
    {left right : Artifact} (same : left.bytes = right.bytes) :
    (Basis.mk oracle (settings.usingSnapshot false)).next reading below stage (.ok left) =
      (Basis.mk oracle (settings.usingSnapshot true)).next other below stage (.ok right) := by
  obtain ⟨source, first, second, _⟩ := start.source
  unfold Basis.next compiled compilerOf
  rw [first, second]
  dsimp only
  rw [same]
  rfl

theorem generation (start : SameStart oracle settings reading other artifact) {stage : Stage}
    (later : stage ≠ .stage0) :
    (Basis.mk oracle (settings.usingSnapshot false)).generation reading stage =
      (Basis.mk oracle (settings.usingSnapshot true)).generation other stage := by
  induction stage using Stage.ascend with
  | first => exact absurd rfl later
  | next below stage above ih =>
      rw [generation_next _ reading above, generation_next _ other above]
      by_cases lowest : below = .stage0
      · subst lowest
        rw [start.hosted, start.loaded]
        exact start.next .stage0 stage rfl
      · rw [ih lowest]
        cases Basis.generation _ other below with
        | error error => rfl
        | ok standing => exact start.next below stage rfl

theorem alike (start : SameStart oracle settings reading other artifact) :
    (Basis.mk oracle (settings.usingSnapshot false)).Alike
      (Basis.mk oracle (settings.usingSnapshot true)) reading other where
  oracle := rfl
  toolchain := rfl
  tested := rfl
  checks := rfl
  bytes := by
    intro stage
    by_cases lowest : stage = .stage0
    · subst lowest
      rw [start.hosted, start.loaded]
      rfl
    · rw [start.generation lowest]

end SameStart

end Basis

section

variable {World Engine State Value : Type}

/-- Two sessions, one with a compiler from the host and one with a snapshot of it, that have the
same generations at hand above the first. -/
structure Session.Interchanged (env : Environment World Engine Value) (settings : Settings)
    (artifact : Bytes) (session other : Session World) : Prop where
  hosted : (Ladder.build env (settings.usingSnapshot false) .stage0 session).1 =
    .ok ⟨.stage0, .host, artifact⟩
  loaded : (Ladder.build env (settings.usingSnapshot true) .stage0 other).1 =
    .ok ⟨.stage0, .snapshot, artifact⟩
  later : ∀ stage, stage ≠ .stage0 →
    (Ladder.build env (settings.usingSnapshot false) stage session).1 =
      (Ladder.build env (settings.usingSnapshot true) stage other).1

variable {env : Environment World Engine Value} {oracle : Oracle State Value}
  {Fits OtherFits : World → Ledger Engine State → Prop} {content other : Content}

theorem Basis.SameStart.interchanged {settings : Settings} {artifact : Bytes}
    {reading another : Reading} (start : SameStart oracle settings reading another artifact)
    {session otherSession : Session World}
    (builds : ∀ stage, (Ladder.build env (settings.usingSnapshot false) stage session).1 =
      (Basis.mk oracle (settings.usingSnapshot false)).generation reading stage)
    (rebuilds : ∀ stage, (Ladder.build env (settings.usingSnapshot true) stage otherSession).1 =
      (Basis.mk oracle (settings.usingSnapshot true)).generation another stage) :
    session.Interchanged env settings artifact otherSession where
  hosted := (builds .stage0).trans start.hosted
  loaded := (rebuilds .stage0).trans start.loaded
  later := fun stage later => by rw [builds, rebuilds, start.generation later]

theorem Verification.run_interchangeable (settled : Settled env oracle content Fits)
    (otherSettled : Settled env oracle other OtherFits) (settings : Settings)
    {source artifact : Bytes}
    (readable : content.read settings.locations.compilerSource = .ok source)
    (otherReadable : other.read settings.locations.compilerSource = .ok source)
    (compiles : oracle.host ⟨"compiler", settings.locations.compilerSource, source⟩ =
      .ok artifact)
    (filled : artifact ≠ []) (snapshot : other.read settings.locations.snapshot = .ok artifact)
    (world otherWorld : World) (fits : Fits world (.opened []))
    (otherFits : OtherFits otherWorld (.opened []))
    (corpus : ((Corpus.discover env.files settings.corpus).alone world).answer =
      ((Corpus.discover env.files settings.corpus).alone otherWorld).answer)
    (filter : Option String) (logger otherLogger : Log.Logger) :
    (∃ answer session otherSession,
      run env (settings.usingSnapshot false) filter (.start world logger) = (answer, session) ∧
      run env (settings.usingSnapshot true) filter (.start otherWorld otherLogger) =
        (answer, otherSession) ∧
      session.entries = otherSession.entries ∧
      session.Interchanged env settings artifact otherSession) ∧
    ∀ calls otherCalls, (∀ call ∈ calls, call.Keeps Fits) →
      (∀ call ∈ otherCalls, call.Keeps OtherFits) →
      Session.Interchanged env settings artifact
        (Call.serveAll env (settings.usingSnapshot false) calls (.start world logger)).2
        (Call.serveAll env (settings.usingSnapshot true) otherCalls
          (.start otherWorld otherLogger)).2 := by
  let hosted : Basis State Value := ⟨oracle, settings.usingSnapshot false⟩
  let loaded : Basis State Value := ⟨oracle, settings.usingSnapshot true⟩
  have hostKnown : Settled env hosted.oracle content Fits := settled
  have loadKnown : Settled env loaded.oracle other OtherFits := otherSettled
  have start : Basis.SameStart oracle settings (hosted.readingOf content.read)
      (loaded.readingOf other.read) artifact :=
    ⟨⟨source, readable, otherReadable, compiles⟩, snapshot, filled⟩
  have found : content.discover settings.corpus = other.discover settings.corpus := by
    rw [← settled.discovered settings.corpus fits, corpus,
      otherSettled.discovered settings.corpus otherFits]
  obtain ⟨sameRun, sameEntries⟩ := start.alike.whole found filter
  constructor
  · obtain ⟨answer, _, _, shows⟩ := run_shows hostKnown filter logger fits
    obtain ⟨otherAnswer, _, _, otherShows⟩ := run_shows loadKnown filter otherLogger otherFits
    refine ⟨_, _, _, Prod.ext answer rfl, Prod.ext (otherAnswer.trans sameRun.symm) rfl, ?_,
      start.interchanged (Ladder.build_shown hostKnown.deterministic shows)
        (Ladder.build_shown loadKnown.deterministic otherShows)⟩
    rw [shows.2.1, otherShows.2.1]
    exact sameEntries
  · intro calls otherCalls keeps otherKeeps
    exact start.interchanged
      (Call.build_after hostKnown.deterministic calls keeps logger fits)
      (Call.build_after loadKnown.deterministic otherCalls otherKeeps otherLogger otherFits)

end

namespace Toy

def numbered : FileMap :=
  .ofList [(⟨"compiler/compiler.src"⟩, Utf8.encode "compiler $NEXT"),
    (⟨"tests/truth.src"⟩, Utf8.encode "test return #t")]

def numberedWithSnapshot : FileMap :=
  numbered.write ⟨"stage0.mod"⟩ (Utf8.encode "compiler 0")

theorem numbered_interchangeable :
    ∃ answer session otherSession,
      Verification.run (environment none false) (Settings.default.usingSnapshot false) none
          (.start (World.start numbered []) (Log.Logger.new .info 0)) = (answer, session) ∧
      Verification.run (environment none false) (Settings.default.usingSnapshot true) none
          (.start (World.start numberedWithSnapshot []) (Log.Logger.new .info 0)) =
        (answer, otherSession) ∧
      session.entries = otherSession.entries ∧
      (Ladder.build (environment none false) (Settings.default.usingSnapshot false) .stage3
          session).1 =
        (Ladder.build (environment none false) (Settings.default.usingSnapshot true) .stage3
          otherSession).1 := by
  have readable : (content numbered []).read ⟨"compiler/compiler.src"⟩ =
      .ok (Utf8.encode "compiler $NEXT") := by decide +kernel
  have otherReadable : (content numberedWithSnapshot []).read ⟨"compiler/compiler.src"⟩ =
      .ok (Utf8.encode "compiler $NEXT") := by decide +kernel
  have compiles : (oracle none false).host ⟨"compiler", ⟨"compiler/compiler.src"⟩,
      Utf8.encode "compiler $NEXT"⟩ = .ok (Utf8.encode "compiler 0") := by decide +kernel
  have snapshot : (content numberedWithSnapshot []).read ⟨"stage0.mod"⟩ =
      .ok (Utf8.encode "compiler 0") := by decide +kernel
  have corpus : ((Corpus.discover (environment none false).files .default).alone
        (World.start numbered [])).answer =
      ((Corpus.discover (environment none false).files .default).alone
        (World.start numberedWithSnapshot [])).answer := by decide +kernel
  obtain ⟨⟨answer, session, otherSession, ran, otherRan, entries, interchanged⟩, _⟩ :=
    Verification.run_interchangeable (settled none false numbered [])
      (settled none false numberedWithSnapshot []) .default readable otherReadable compiles
      (by decide +kernel) snapshot (World.start numbered []) (World.start numberedWithSnapshot [])
      (frozen_start numbered []) (frozen_start numberedWithSnapshot []) corpus none
      (Log.Logger.new .info 0) (Log.Logger.new .info 0)
  exact ⟨answer, session, otherSession, ran, otherRan, entries,
    interchanged.later .stage3 (by decide)⟩

end Toy

end Bootstrap
