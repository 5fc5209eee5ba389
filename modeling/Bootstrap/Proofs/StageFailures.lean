import Bootstrap.Proofs.Requests
import Bootstrap.Proofs.RootCause
import Bootstrap.Proofs.ToyWorld

/-!
How failures to build spread: one generation fails by itself, those below it are built, and those
above it are blocked by that very failure.
-/

namespace Bootstrap

namespace Basis

variable {State Value : Type}

/-- The compiler that a generation is constructed with, once everything below it is built. -/
inductive CompiledWith (basis : Basis State Value) (reading : Reading) :
    Stage → (SourceUnit → Except CompileError Bytes) → Prop where
  | host (unused : basis.usesSnapshot = false) :
      CompiledWith basis reading .stage0 basis.oracle.host
  | below {below stage : Stage} {lower : Artifact} (above : below.next? = some stage)
      (built : basis.generation reading below = .ok lower) :
      CompiledWith basis reading stage (basis.compilerOf lower)

/-- A generation's own construction fails, and how: by the snapshot, by the source, or by its
compiler. -/
inductive FailsItself (basis : Basis State Value) (reading : Reading) :
    Stage → StageError → Prop where
  | unreadableSnapshot {error : FileError} (used : basis.usesSnapshot = true)
      (answer : reading.snapshot = .error error) :
      FailsItself basis reading .stage0 (.snapshot basis.snapshotPath error.message)
  | emptySnapshot (used : basis.usesSnapshot = true) (answer : reading.snapshot = .ok []) :
      FailsItself basis reading .stage0 (.snapshot basis.snapshotPath "empty file")
  | unreadableSource {stage : Stage} {compile : SourceUnit → Except CompileError Bytes}
      {error : FileError} (compiler : CompiledWith basis reading stage compile)
      (answer : reading.source = .error error) :
      FailsItself basis reading stage (.source stage basis.sourcePath error.message)
  | refused {stage : Stage} {compile : SourceUnit → Except CompileError Bytes} {bytes : Bytes}
      {error : CompileError} (compiler : CompiledWith basis reading stage compile)
      (answer : reading.source = .ok bytes) (result : compile (basis.unit bytes) = .error error) :
      FailsItself basis reading stage (.compile stage error)
  | emptyArtifact {stage : Stage} {compile : SourceUnit → Except CompileError Bytes}
      {bytes : Bytes} (compiler : CompiledWith basis reading stage compile)
      (answer : reading.source = .ok bytes) (result : compile (basis.unit bytes) = .ok []) :
      FailsItself basis reading stage (.compile stage ⟨"empty artifact"⟩)

variable {basis : Basis State Value} {reading : Reading}

theorem generation_of_compiledWith {stage : Stage}
    {compile : SourceUnit → Except CompileError Bytes}
    (compiler : basis.CompiledWith reading stage compile) :
    ∃ origin, basis.generation reading stage = basis.compiled reading stage origin compile := by
  cases compiler with
  | host unused => exact ⟨.host, by simp [generation_stage0, first, unused]⟩
  | below above built =>
      exact ⟨.compiledBy _, by rw [basis.generation_next reading above, built]; rfl⟩

theorem FailsItself.generation {stage : Stage} {error : StageError}
    (fails : basis.FailsItself reading stage error) :
    basis.generation reading stage = .error error := by
  cases fails with
  | unreadableSnapshot used answer =>
      simp [generation_stage0, first, used, answer, Ladder.acceptSnapshot]
  | emptySnapshot used answer =>
      simp [generation_stage0, first, used, answer, Ladder.acceptSnapshot]
  | unreadableSource compiler answer =>
      obtain ⟨origin, made⟩ := generation_of_compiledWith compiler
      simp [made, compiled, answer, sourceUnit]
  | refused compiler answer result =>
      obtain ⟨origin, made⟩ := generation_of_compiledWith compiler
      simp [made, compiled, answer, sourceUnit, result, Ladder.accept]
  | emptyArtifact compiler answer result =>
      obtain ⟨origin, made⟩ := generation_of_compiledWith compiler
      simp [made, compiled, answer, sourceUnit, result, Ladder.accept]

theorem FailsItself.root {stage : Stage} {error : StageError}
    (fails : basis.FailsItself reading stage error) :
    error.isDependency = false ∧ error.stage = stage := by
  cases fails <;> exact ⟨rfl, rfl⟩

theorem built_or_failsItself {stage : Stage} {compile : SourceUnit → Except CompileError Bytes}
    (compiler : basis.CompiledWith reading stage compile) :
    (∃ artifact, basis.generation reading stage = .ok artifact) ∨
      ∃ error, basis.FailsItself reading stage error := by
  obtain ⟨origin, made⟩ := generation_of_compiledWith compiler
  cases source : reading.source with
  | error error => exact .inr ⟨_, .unreadableSource compiler source⟩
  | ok bytes =>
      cases result : compile (basis.unit bytes) with
      | error error => exact .inr ⟨_, .refused compiler source result⟩
      | ok output =>
          cases output with
          | nil => exact .inr ⟨_, .emptyArtifact compiler source result⟩
          | cons byte rest =>
              have built := compiled_of_answer source result (List.cons_ne_nil byte rest) stage origin
              exact .inl ⟨_, made.trans built⟩

theorem first_built_or_failsItself (basis : Basis State Value) (reading : Reading) :
    (∃ artifact, basis.generation reading .stage0 = .ok artifact) ∨
      ∃ error, basis.FailsItself reading .stage0 error := by
  cases uses : basis.usesSnapshot with
  | false => exact built_or_failsItself (.host uses)
  | true =>
      cases snapshot : reading.snapshot with
      | error error => exact .inr ⟨_, .unreadableSnapshot uses snapshot⟩
      | ok bytes =>
          cases bytes with
          | nil => exact .inr ⟨_, .emptySnapshot uses snapshot⟩
          | cons byte rest =>
              exact .inl ⟨⟨.stage0, .snapshot, byte :: rest⟩, by
                simp [generation_stage0, first, uses, snapshot, Ladder.acceptSnapshot]⟩

theorem built_or_someone_fails (basis : Basis State Value) (reading : Reading) (stage : Stage) :
    (∃ artifact, basis.generation reading stage = .ok artifact) ∨
      ∃ failing error, basis.FailsItself reading failing error := by
  induction stage using Stage.ascend with
  | first =>
      rcases basis.first_built_or_failsItself reading with built | ⟨error, fails⟩
      · exact .inl built
      · exact .inr ⟨_, error, fails⟩
  | next below stage above ih =>
      rcases ih with ⟨lower, built⟩ | failing
      · rcases built_or_failsItself (.below above built) with built | ⟨error, fails⟩
        · exact .inl built
        · exact .inr ⟨_, error, fails⟩
      · exact .inr failing

theorem stage_of_generation {stage : Stage} {artifact : Artifact}
    (built : basis.generation reading stage = .ok artifact) :
    artifact.stage = stage ∧ artifact.bytes ≠ [] := by
  rcases stage.first_or_next with rfl | ⟨below, above⟩
  · cases uses : basis.usesSnapshot with
    | true =>
        obtain ⟨_, made, filled⟩ := generation_of_snapshot uses built
        exact ⟨by rw [made], filled⟩
    | false =>
        obtain ⟨_, _, _, made, filled⟩ := generation_of_host uses built
        exact ⟨by rw [made], filled⟩
  · obtain ⟨_, _, _, _, _, made, filled⟩ := generation_of_compiled above built
    exact ⟨by rw [made], filled⟩

theorem lower_generation {stage : Stage} {artifact : Artifact}
    (built : basis.generation reading stage = .ok artifact) {lower : Stage}
    (below : lower.index ≤ stage.index) :
    ∃ artifact, basis.generation reading lower = .ok artifact := by
  induction stage using Stage.ascend generalizing artifact with
  | first =>
      have same : lower = .stage0 := Stage.index_inj (Nat.le_zero.mp below)
      exact ⟨artifact, same ▸ built⟩
  | next previous stage above ih =>
      have step := Stage.index_next above
      by_cases top : lower = stage
      · exact ⟨artifact, top ▸ built⟩
      · have different : lower.index ≠ stage.index := fun same => top (Stage.index_inj same)
        obtain ⟨compiler, _, standing, _⟩ := generation_of_compiled above built
        exact ih standing (by omega)

theorem FailsItself.below {stage : Stage} {error : StageError}
    (fails : basis.FailsItself reading stage error) {lower : Stage} (below : lower < stage) :
    ∃ artifact, basis.generation reading lower = .ok artifact := by
  have index : lower.index < stage.index := below
  have compiled : ∀ {stage compile}, basis.CompiledWith reading stage compile →
      lower.index < stage.index → ∃ artifact, basis.generation reading lower = .ok artifact := by
    intro stage compile compiler index
    cases compiler with
    | host unused => exact absurd index (Nat.not_lt_zero _)
    | below above built =>
        have step := Stage.index_next above
        exact lower_generation built (by omega)
  cases fails with
  | unreadableSnapshot used answer => exact absurd index (Nat.not_lt_zero _)
  | emptySnapshot used answer => exact absurd index (Nat.not_lt_zero _)
  | unreadableSource compiler answer => exact compiled compiler index
  | refused compiler answer result => exact compiled compiler index
  | emptyArtifact compiler answer result => exact compiled compiler index

theorem FailsItself.above {failing : Stage} {error : StageError}
    (fails : basis.FailsItself reading failing error) {stage : Stage} (higher : failing < stage) :
    basis.generation reading stage = .error (.dependency stage error) := by
  induction stage using Stage.ascend with
  | first => exact absurd higher (Nat.not_lt_zero failing.index)
  | next below stage above ih =>
      have step := Stage.index_next above
      have index : failing.index < stage.index := higher
      rw [basis.generation_next reading above]
      by_cases own : failing = below
      · subst own
        rw [fails.generation]
        exact congrArg Except.error (StageError.blocking_eq_dependency fails.root.1 stage)
      · have different : failing.index ≠ below.index := fun same => own (Stage.index_inj same)
        have between : failing.index < below.index := by omega
        rw [ih between]
        rfl

end Basis

theorem Stage.filter_all_eq_take (good : Stage → Bool)
    (closed : ∀ below stage, below.next? = some stage → good stage = true → good below = true) :
    ∃ count, all.filter good = all.take count := by
  have first := closed .stage0 .stage1 rfl
  have second := closed .stage1 .stage2 rfl
  have third := closed .stage2 .stage3 rfl
  by_cases zero : good .stage0
  · by_cases one : good .stage1
    · by_cases two : good .stage2
      · by_cases three : good .stage3
        · exact ⟨4, by simp [all, zero, one, two, three]⟩
        · exact ⟨3, by simp [all, zero, one, two, three]⟩
      · have three : ¬good .stage3 := fun built => two (third built)
        exact ⟨2, by simp [all, zero, one, two, three]⟩
    · have two : ¬good .stage2 := fun built => one (second built)
      have three : ¬good .stage3 := fun built => two (third built)
      exact ⟨1, by simp [all, zero, one, two, three]⟩
  · have one : ¬good .stage1 := fun built => zero (first built)
    have two : ¬good .stage2 := fun built => one (second built)
    have three : ¬good .stage3 := fun built => two (third built)
    exact ⟨0, by simp [all, zero, one, two, three]⟩

theorem Basis.builtStages_cells {State Value : Type} (basis : Basis State Value) (reading : Reading)
    (height : Nat) :
    ∃ count, (basis.cells reading height).builtStages.map Artifact.stage = Stage.all.take count := by
  let good : Stage → Bool := fun stage =>
    decide (stage.index < height) && (basis.generation reading stage).isOk
  have named : (basis.cells reading height).builtStages.map Artifact.stage =
      Stage.all.filter good := by
    unfold Cells.builtStages
    rw [List.map_filterMap, ← List.filterMap_eq_filter]
    refine List.filterMap_congr fun stage _ => ?_
    by_cases lower : stage.index < height
    · cases built : basis.generation reading stage with
      | error error => simp [good, cells, Option.guard, lower, built, Except.isOk, Except.toBool]
      | ok artifact =>
          simp [good, cells, Option.guard, lower, built, Except.isOk, Except.toBool,
            (stage_of_generation built).1]
    · simp [good, cells, Option.guard, lower]
  rw [named]
  refine Stage.filter_all_eq_take good fun below stage above holds => ?_
  have step := Stage.index_next above
  simp only [good, Bool.and_eq_true, decide_eq_true_eq] at holds ⊢
  refine ⟨by omega, ?_⟩
  cases built : basis.generation reading stage with
  | error error => simp [built, Except.isOk, Except.toBool] at holds
  | ok artifact =>
      obtain ⟨lower, standing⟩ :=
        lower_generation built (show below.index ≤ stage.index by omega)
      simp [standing, Except.isOk, Except.toBool]

section

variable {World Engine State Value : Type} {env : Environment World Engine Value}
  {Fits : World → Ledger Engine State → Prop} {basis : Basis State Value}
  {content : Path → Except FileError Bytes}

theorem Call.build_after (deterministic : Deterministic env basis.oracle (Basis.Steady content) Fits)
    (calls : List (Call World)) (keeps : ∀ call ∈ calls, call.Keeps Fits) {world : World}
    (logger : Log.Logger) (fits : Fits world (.opened [])) (stage : Stage) :
    (Ladder.build env basis.settings stage
        (serveAll env basis.settings calls (.start world logger)).2).1 =
      basis.generation (basis.readingOf content) stage := by
  obtain ⟨_, _, _, _, shows⟩ := serveAll_steady deterministic calls keeps logger fits
  exact Ladder.build_shown deterministic shows stage

theorem Call.build_failures
    (deterministic : Deterministic env basis.oracle (Basis.Steady content) Fits)
    (calls : List (Call World)) (keeps : ∀ call ∈ calls, call.Keeps Fits) (world : World)
    (logger : Log.Logger) (fits : Fits world (.opened [])) :
    ∃ session, (serveAll env basis.settings calls (.start world logger)).2 = session ∧
      (∀ failing error, basis.FailsItself (basis.readingOf content) failing error →
        error.isDependency = false ∧ error.stage = failing ∧
        (∀ stage, stage < failing → ∃ artifact,
          (Ladder.build env basis.settings stage session).1 = .ok artifact ∧
            artifact.stage = stage ∧ artifact.bytes ≠ []) ∧
        (Ladder.build env basis.settings failing session).1 = .error error ∧
        ∀ stage, failing < stage →
          (Ladder.build env basis.settings stage session).1 = .error (.dependency stage error) ∧
            (StageError.dependency stage error).rootStage = failing) ∧
      ((∀ failing error, ¬basis.FailsItself (basis.readingOf content) failing error) →
        ∀ stage, ∃ artifact,
          (Ladder.build env basis.settings stage session).1 = .ok artifact ∧
            artifact.stage = stage ∧ artifact.bytes ≠ []) ∧
      ∃ count, session.cells.builtStages.map Artifact.stage = Stage.all.take count := by
  have after := build_after deterministic calls keeps logger fits
  obtain ⟨_, height, entries, events, shows⟩ := serveAll_steady deterministic calls keeps logger fits
  refine ⟨_, rfl, ?_, ?_, ?_⟩
  · intro failing error fails
    obtain ⟨root, own⟩ := fails.root
    refine ⟨root, own, ?_, ?_, ?_⟩
    · intro stage lower
      obtain ⟨artifact, built⟩ := fails.below lower
      exact ⟨artifact, (after stage).trans built, Basis.stage_of_generation built⟩
    · exact (after failing).trans fails.generation
    · intro stage higher
      exact ⟨(after stage).trans (fails.above higher),
        (StageError.rootStage_eq_stage root).trans own⟩
  · intro none stage
    rcases basis.built_or_someone_fails (basis.readingOf content) stage with built | someone
    · obtain ⟨artifact, built⟩ := built
      exact ⟨artifact, (after stage).trans built, Basis.stage_of_generation built⟩
    · obtain ⟨failing, error, fails⟩ := someone
      exact absurd fails (none failing error)
  · have cells : _ = basis.cells (basis.readingOf content) height := shows.1
    rw [cells]
    exact basis.builtStages_cells (basis.readingOf content) height

end

namespace Toy

def fromSnapshot : Basis Engine Value :=
  ⟨oracle none false, { Settings.default with selection := .only true Stage.all }⟩

def snapshotOnly : FileMap :=
  .ofList [(⟨"stage0.mod"⟩, Utf8.encode "compiler 0")]

def sourceMissing : StageError :=
  .source .stage1 ⟨"compiler/compiler.src"⟩ (FileError.notFound "compiler/compiler.src").message

theorem snapshotOnly_fails :
    fromSnapshot.FailsItself (fromSnapshot.readingOf (content snapshotOnly []).read) .stage1
      sourceMissing := by
  have built : fromSnapshot.generation (fromSnapshot.readingOf (content snapshotOnly []).read) .stage0 =
      .ok ⟨.stage0, .snapshot, Utf8.encode "compiler 0"⟩ := by decide +kernel
  have unreadable : (fromSnapshot.readingOf (content snapshotOnly []).read).source =
      .error (.notFound "compiler/compiler.src") := by decide +kernel
  exact .unreadableSource (.below rfl built) unreadable

theorem snapshotOnly_build_failures :
    ∃ session, (Call.serveAll (environment none false) fromSnapshot.settings
        [.request (.build .stage3)]
        (.start (World.start snapshotOnly []) (Log.Logger.new .info 0))).2 = session ∧
      (∃ artifact, (Ladder.build (environment none false) fromSnapshot.settings .stage0 session).1 =
        .ok artifact ∧ artifact.stage = .stage0 ∧ artifact.bytes ≠ []) ∧
      (Ladder.build (environment none false) fromSnapshot.settings .stage1 session).1 =
        .error sourceMissing ∧
      (Ladder.build (environment none false) fromSnapshot.settings .stage3 session).1 =
        .error (.dependency .stage3 sourceMissing) := by
  have deterministic : Deterministic (environment none false) fromSnapshot.oracle
      (Basis.Steady (content snapshotOnly []).read) (Uncounted (Frozen snapshotOnly [])) :=
    (settled none false snapshotOnly []).deterministic
  obtain ⟨session, served, failures, _⟩ := Call.build_failures deterministic
    [.request (.build .stage3)] (by simp [Call.Keeps]) (World.start snapshotOnly [])
    (Log.Logger.new .info 0) (frozen_start snapshotOnly [])
  obtain ⟨_, _, below, own, above⟩ := failures .stage1 sourceMissing snapshotOnly_fails
  exact ⟨session, served, below .stage0 (by decide), own, (above .stage3 (by decide)).1⟩

end Toy

end Bootstrap
