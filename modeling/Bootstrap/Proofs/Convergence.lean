import Bootstrap.Proofs.AnyHost
import Bootstrap.Proofs.StageFailures

/-!
What the fixpoint check proves. Two equal generations in a row settle all later ones: a compiler
that compiles its source to itself does so for ever.
-/

namespace Bootstrap

/-- The highest enabled generation among those that run tests, or stage2 if none is enabled. -/
def Selection.IsBase (selection : Selection) (base : Stage) : Prop :=
  (base ∈ Stage.testable ∧ selection.isEnabled base = true ∧
      ∀ stage ∈ Stage.testable, selection.isEnabled stage = true → stage ≤ base) ∨
    base = .stage2 ∧ ∀ stage ∈ Stage.testable, selection.isEnabled stage = false

theorem Selection.isBase_fixpointBase (selection : Selection) :
    selection.IsBase selection.fixpointBase := by
  obtain ⟨useSnapshot, stage0, stage1, stage2, stage3⟩ := selection
  unfold IsBase
  decide +revert

def Compiler.again {World Engine Value : Type} (kit : EngineKit World Engine Value)
    (exportName : String) (unit : SourceUnit) : Nat → Bytes → Act World (Except CompileError Bytes)
  | 0, bytes => return .ok bytes
  | count + 1, bytes => do
      match ← Compiler.ofModule kit bytes exportName unit with
      | .error error => return .error error
      | .ok output => again kit exportName unit count output

namespace Basis

variable {State Value : Type}

inductive Verified (basis : Basis State Value) (reading : Reading) (selection : Selection) :
    Except RunError Convergence → Prop where
  | skipped (unchecked : selection.checksFixpoint = false) :
      Verified basis reading selection (.ok .skipped)
  | unbuilt {next : Stage} {error : StageError} (checked : selection.checksFixpoint = true)
      (above : selection.fixpointBase.next? = some next)
      (missing : basis.generation reading selection.fixpointBase = .error error ∨
        basis.generation reading next = .error error) :
      Verified basis reading selection (.error (.stageBuild error))
  | differing {next : Stage} {current again : Artifact} (checked : selection.checksFixpoint = true)
      (above : selection.fixpointBase.next? = some next)
      (built : basis.generation reading selection.fixpointBase = .ok current)
      (rebuilt : basis.generation reading next = .ok again)
      (different : current.bytes ≠ again.bytes) :
      Verified basis reading selection
        (.error (.fixpoint ⟨selection.fixpointBase, next, current.size, again.size,
          Mismatch.firstDifferenceOf current.bytes again.bytes⟩))
  | converged {next : Stage} {current again : Artifact} (checked : selection.checksFixpoint = true)
      (above : selection.fixpointBase.next? = some next)
      (built : basis.generation reading selection.fixpointBase = .ok current)
      (rebuilt : basis.generation reading next = .ok again)
      (same : current.bytes = again.bytes) :
      Verified basis reading selection
        (.ok (.converged selection.fixpointBase next current.size current.digest))

theorem verified (basis : Basis State Value) (reading : Reading) (selection : Selection) :
    basis.Verified reading selection (basis.verify reading selection) := by
  obtain ⟨next, above⟩ := selection.next?_fixpointBase
  unfold verify
  cases checks : selection.checksFixpoint with
  | false => exact .skipped checks
  | true =>
      simp only [above, if_true, compare]
      cases built : basis.generation reading selection.fixpointBase with
      | error error => exact .unbuilt checks above (.inl built)
      | ok current =>
          cases rebuilt : basis.generation reading next with
          | error error => exact .unbuilt checks above (.inr rebuilt)
          | ok again =>
              dsimp only
              unfold judge Mismatch.compare?
              by_cases same : current.bytes = again.bytes
              · simp only [same, if_true]
                exact .converged checks above built rebuilt same
              · simp only [same, if_false]
                exact .differing checks above built rebuilt same

variable {basis : Basis State Value} {reading : Reading}

theorem compiles_itself {base next : Stage} {current again : Artifact}
    (above : base.next? = some next) (built : basis.generation reading base = .ok current)
    (rebuilt : basis.generation reading next = .ok again) (same : current.bytes = again.bytes) :
    ∃ source, reading.source = .ok source ∧
      basis.oracle.compile current.bytes basis.settings.toolchain.compileExport
        (basis.unit source) = .ok current.bytes := by
  obtain ⟨lower, source, standing, read, compiled, _⟩ := generation_of_compiled above rebuilt
  have found : lower = current := by simpa [built] using standing.symm
  subst found
  rw [← same] at compiled
  exact ⟨source, read, compiled⟩

theorem generation_of_compiles_itself {bytes source : Bytes} (filled : bytes ≠ [])
    (read : reading.source = .ok source)
    (fixed : basis.oracle.compile bytes basis.settings.toolchain.compileExport
      (basis.unit source) = .ok bytes)
    {base : Stage} {current : Artifact} (built : basis.generation reading base = .ok current)
    (same : current.bytes = bytes) {stage : Stage} (higher : base ≤ stage) :
    ∃ artifact, basis.generation reading stage = .ok artifact ∧ artifact.bytes = bytes := by
  have index : base.index ≤ stage.index := higher
  induction stage using Stage.ascend with
  | first =>
      have lowest : base = .stage0 := Stage.index_inj (Nat.le_zero.mp index)
      exact ⟨current, lowest ▸ built, same⟩
  | next below stage above ih =>
      have step := Stage.index_next above
      by_cases top : base = stage
      · exact ⟨current, top ▸ built, same⟩
      · have different : base.index ≠ stage.index := fun equal => top (Stage.index_inj equal)
        have lower : base.index ≤ below.index := by omega
        obtain ⟨artifact, standing, kept⟩ := ih lower lower
        refine ⟨⟨stage, .compiledBy below, bytes⟩, ?_, rfl⟩
        rw [← kept] at fixed filled ⊢
        rw [basis.generation_next reading above, standing]
        exact compiled_of_answer read fixed filled stage (.compiledBy below)

end Basis

section

variable {World Engine State Value : Type} {env : Environment World Engine Value}
  {oracle : Oracle State Value} {Fits : World → Ledger Engine State → Prop}

theorem Deterministic.again {MayRead : Path → Except FileError Bytes → Prop}
    (deterministic : Deterministic env oracle MayRead Fits) {bytes : Bytes} {exportName : String}
    {unit : SourceUnit} (fixed : oracle.compile bytes exportName unit = .ok bytes) (count : Nat)
    (ledger : Ledger Engine State) :
    Act.Takes Fits ledger (Compiler.again env.engines exportName unit count bytes)
      fun answer after => answer = .ok bytes ∧ ∃ events, after = ledger.add events := by
  induction count generalizing ledger with
  | zero => exact Act.Takes.pure ⟨rfl, [], by simp⟩
  | succ count ih =>
      refine (deterministic.compile bytes exportName unit ledger).bind ?_
      rintro _ _ ⟨rfl, rfl⟩
      rw [fixed]
      refine (ih _).mono ?_
      rintro answer _ ⟨same, events, rfl⟩
      exact ⟨same, .engine :: events, by simp⟩

theorem Session.Shows.performs_again {content : Path → Except FileError Bytes}
    (deterministic : Deterministic env oracle (Basis.Steady content) Fits) {session : Session World}
    {account : Account} (shows : session.Shows Fits account) {bytes : Bytes} {exportName : String}
    {unit : SourceUnit} (fixed : oracle.compile bytes exportName unit = .ok bytes) (count : Nat) :
    (Run.perform env (Compiler.again env.engines exportName unit count bytes) session).1 =
      .ok bytes := by
  have performs : Run.Takes Fits account
      (Run.perform env (Compiler.again env.engines exportName unit count bytes))
      fun answer _ => answer = .ok bytes := by
    refine Run.Takes.perform deterministic.logsApart ((deterministic.again fixed count _).mono ?_)
    rintro _ _ ⟨rfl, events, rfl⟩
    exact ⟨account.events ++ events, rfl, rfl⟩
  obtain ⟨_, answered, _⟩ := performs session shows
  exact answered

namespace Fixpoint

variable {content : Path → Except FileError Bytes}

theorem generations_after
    (deterministic : Deterministic env oracle (Basis.Steady content) Fits) {host : Compiler World}
    (apart : host.KeepsApart Fits) (settings : Settings) (selection : Selection)
    (calls : List (Call World)) (keeps : ∀ call ∈ calls, call.Keeps Fits) {world : World}
    (logger : Log.Logger) (fits : Fits world (.opened [])) :
    ∃ (basis : Basis State Value) (session : Session World),
      basis.settings = settings ∧ (∀ bytes exportName unit,
        basis.oracle.compile bytes exportName unit = oracle.compile bytes exportName unit) ∧
      verify (env.hostedBy host) settings selection
          (Call.serveAll (env.hostedBy host) settings calls (.start world logger)).2 =
        (basis.verify (basis.readingOf content) selection, session) ∧
      (selection.checksFixpoint = true → ∀ stage,
        (Ladder.build (env.hostedBy host) settings stage session).1 =
          basis.generation (basis.readingOf content) stage) ∧
      ∃ account, session.Shows Fits account := by
  let checked (other : Compiler World) : Run World (Except RunError Convergence) := do
    let _ ← Call.serveAll (env.hostedBy other) settings calls
    verify (env.hostedBy other) settings selection
  have once : Run.AsksOnce host checked :=
    Run.AsksOnce.bind (Call.serveAll_asksOnce env settings calls) fun _ =>
      verify_asksOnce env settings selection
  obtain ⟨answers, same⟩ := once.replay (.start world logger)
  let basis : Basis State Value := ⟨oracle.hostedBy answers, settings⟩
  have bound : Deterministic (env.hostedBy (host.bound answers)) basis.oracle
      (Basis.Steady content) Fits := deterministic.hostedBy apart answers
  obtain ⟨_, height, entries, events, shows⟩ := Call.serveAll_steady bound calls keeps logger fits
  have leads := verify_leads bound selection (basis.readingOf content) height
  obtain ⟨_, ⟨answered, rfl⟩, shown⟩ := leads.steady entries events _ shows
  refine ⟨basis, _, rfl, fun _ _ _ => rfl, same.symm.trans (Prod.ext answered rfl), ?_, _, shown⟩
  intro checks stage
  have needs : (Request.fixpoint selection).Needs basis.settings selection.fixpointBase :=
    ⟨checks, rfl⟩
  have reached : 0 < basis.verifyReach height selection (basis.readingOf content) :=
    Nat.zero_lt_of_lt (basis.index_lt_reach height (basis.readingOf content) needs)
  have founded : (checked (host.bound answers) (.start world logger)).2.Founded := by
    have cells : (checked (host.bound answers) (.start world logger)).2.cells = _ := shown.1
    simp [Session.Founded, cells, Basis.cells, Stage.index, reached]
  rw [← ((Ladder.build_asksOnce env settings stage).founded founded).2 answers]
  exact Ladder.build_shown bound shown stage

theorem verify_permanent
    (deterministic : Deterministic env oracle (Basis.Steady content) Fits) {host : Compiler World}
    (apart : host.KeepsApart Fits) (settings : Settings) (selection : Selection)
    (calls : List (Call World)) (keeps : ∀ call ∈ calls, call.Keeps Fits) (world : World)
    (logger : Log.Logger) (fits : Fits world (.opened [])) :
    ∃ answer session,
      verify (env.hostedBy host) settings selection
          (Call.serveAll (env.hostedBy host) settings calls (.start world logger)).2 =
        (answer, session) ∧
      (answer = .ok .skipped ↔ selection.stage3 = false) ∧
      (∀ message, answer ≠ .error (.settings message)) ∧
      (∀ base next size digest, answer = .ok (.converged base next size digest) →
        selection.IsBase base ∧ base.next? = some next ∧ 0 < size ∧
        ∃ bytes source, size = bytes.length ∧ digest = fingerprint bytes ∧
          content settings.locations.compilerSource = .ok source ∧
          (∀ stage, base ≤ stage → ∃ artifact,
            (Ladder.build (env.hostedBy host) settings stage session).1 = .ok artifact ∧
              artifact.bytes = bytes) ∧
          ∀ count, (Run.perform (env.hostedBy host)
            (Compiler.again env.engines settings.toolchain.compileExport
              ⟨"compiler", settings.locations.compilerSource, source⟩ count bytes) session).1 =
            .ok bytes) ∧
      (∀ mismatch, answer = .error (.fixpoint mismatch) →
        selection.IsBase mismatch.stage ∧ mismatch.stage.next? = some mismatch.next ∧
        ∃ current again,
          (Ladder.build (env.hostedBy host) settings mismatch.stage session).1 = .ok current ∧
          (Ladder.build (env.hostedBy host) settings mismatch.next session).1 = .ok again ∧
          current.bytes ≠ again.bytes) ∧
      ∀ error, answer = .error (.stageBuild error) →
        ∃ base next, selection.IsBase base ∧ base.next? = some next ∧
          ((Ladder.build (env.hostedBy host) settings base session).1 = .error error ∨
            (Ladder.build (env.hostedBy host) settings next session).1 = .error error) := by
  obtain ⟨basis, session, rfl, engines, checked, built, account, shows⟩ :=
    generations_after deterministic apart settings selection calls keeps logger fits
  have isBase := selection.isBase_fixpointBase
  have outcome := basis.verified (basis.readingOf content) selection
  refine ⟨_, session, checked, ?_, ?_, ?_, ?_, ?_⟩
  · constructor
    · intro skipped
      rw [skipped] at outcome
      cases outcome with
      | skipped unchecked => exact unchecked
    · intro disabled
      have unchecked : selection.checksFixpoint = false := disabled
      simp [Basis.verify, unchecked]
  · intro message ended
    rw [ended] at outcome
    cases outcome
  · intro base next size digest ended
    rw [ended] at outcome
    cases outcome with
    | converged checks above current again same =>
        have filled := (Basis.stage_of_generation current).2
        obtain ⟨source, read, fixed⟩ := Basis.compiles_itself above current again same
        refine ⟨isBase, above, List.length_pos_iff.mpr filled, _, source, rfl, rfl, read, ?_, ?_⟩
        · intro stage higher
          rw [built checks]
          exact Basis.generation_of_compiles_itself filled read fixed current rfl higher
        · intro count
          rw [engines] at fixed
          exact shows.performs_again deterministic fixed count
  · intro mismatch ended
    rw [ended] at outcome
    cases outcome with
    | differing checks above current again different =>
        refine ⟨isBase, above, _, _, ?_, ?_, different⟩
        · rw [built checks, current]
        · rw [built checks, again]
  · intro error ended
    rw [ended] at outcome
    cases outcome with
    | unbuilt checks above missing =>
        refine ⟨_, _, isBase, above, ?_⟩
        rw [built checks, built checks]
        exact missing

end Fixpoint

end

namespace Toy

/-- A host that compiles only when it is called for an even time, counted from zero. -/
def fickle : Compiler World := fun unit =>
  Act.change fun world =>
    (if world.hostCalls % 2 = 0 then hostAnswer none unit else .error ⟨"tired"⟩,
      { world with hostCalls := world.hostCalls + 1 })

def selfCompiling : FileMap :=
  .ofList [(⟨"compiler/compiler.src"⟩, Utf8.encode "compiler x")]

theorem fickle_permanent :
    ∃ session,
      Fixpoint.verify ((environment none false).hostedBy fickle) .default .default
          (Call.serveAll ((environment none false).hostedBy fickle) .default
            [.request (.build .stage1)]
            (.start (World.start selfCompiling []) (Log.Logger.new .info 0))).2 =
        (.ok (.converged .stage2 .stage3 10 (fingerprint (Utf8.encode "compiler x"))), session) ∧
      ∃ bytes source, ∀ count,
        (Run.perform ((environment none false).hostedBy fickle)
          (Compiler.again (environment none false).engines "compile_stdin_to_stdout"
            ⟨"compiler", ⟨"compiler/compiler.src"⟩, source⟩ count bytes) session).1 =
          .ok bytes := by
  have apart : fickle.KeepsApart (Uncounted (Frozen selfCompiling [])) :=
    fun unit ledger _ _ world holds => ⟨ledger.add [.host unit], rfl, holds.same, holds.allowed⟩
  obtain ⟨answer, session, verified, _, _, converged, _⟩ :=
    Fixpoint.verify_permanent (settled none false selfCompiling []).deterministic apart .default
      .default [.request (.build .stage1)] (by simp [Call.Keeps]) (World.start selfCompiling [])
      (Log.Logger.new .info 0) (frozen_start selfCompiling [])
  have ended : (Fixpoint.verify ((environment none false).hostedBy fickle) .default .default
      (Call.serveAll ((environment none false).hostedBy fickle) .default
        [.request (.build .stage1)]
        (.start (World.start selfCompiling []) (Log.Logger.new .info 0))).2).1.toOption =
      some (.converged .stage2 .stage3 10 (fingerprint (Utf8.encode "compiler x"))) := by
    decide +kernel
  rw [verified] at ended
  cases answer with
  | error error => simp [Except.toOption] at ended
  | ok proof =>
      obtain rfl : proof = _ := Option.some.inj ended
      obtain ⟨_, _, _, bytes, source, _, _, _, _, again⟩ := converged _ _ _ _ rfl
      exact ⟨session, verified, bytes, source, again⟩

end Toy

end Bootstrap
