import Bootstrap.Ladder
import Bootstrap.Proofs.Oracle

/-!
Generations without memory: each is computed anew from what the two files say, by recursion on the
generation before it. Two such computations agree on as much as they have used of the files.
-/

namespace Bootstrap

theorem Stage.ascend {motive : Stage → Prop} (first : motive .stage0)
    (next : ∀ below stage, below.next? = some stage → motive below → motive stage) :
    ∀ stage, motive stage := by
  have one := next .stage0 .stage1 rfl first
  have two := next .stage1 .stage2 rfl one
  have three := next .stage2 .stage3 rfl two
  intro stage
  cases stage <;> assumption

theorem Stage.first_or_next (stage : Stage) :
    stage = .stage0 ∨ ∃ below : Stage, below.next? = some stage := by
  induction stage using ascend with
  | first => exact .inl rfl
  | next below stage above => exact .inr ⟨below, above⟩

theorem Stage.index_lt (stage : Stage) : stage.index < 4 := by
  cases stage <;> decide

theorem Stage.index_next {below stage : Stage} (above : below.next? = some stage) :
    stage.index = below.index + 1 := by
  cases below <;> cases stage <;> simp_all [Stage.next?, Stage.index]

theorem Stage.ne_stage0_of_next {below stage : Stage} (above : below.next? = some stage) :
    stage ≠ .stage0 := by
  cases below <;> cases stage <;> simp_all [Stage.next?]

def Stage.between (lower upper : Nat) : List Stage :=
  (all.take upper).drop lower

theorem Stage.between_self (height : Nat) : between height height = [] := by
  simp [between]

theorem Stage.between_succ {lower : Nat} {stage : Stage} (below : lower ≤ stage.index) :
    between lower (stage.index + 1) = between lower stage.index ++ [stage] := by
  have added : all.take (stage.index + 1) = all.take stage.index ++ [stage] := by
    cases stage <;> rfl
  have length : (all.take stage.index).length = stage.index := by
    cases stage <;> rfl
  unfold between
  rw [added, List.drop_append_of_le_length (by omega)]

theorem Stage.between_append {lower middle upper : Nat} (below : lower ≤ middle)
    (above : middle ≤ upper) :
    between lower middle ++ between middle upper = between lower upper := by
  have taken : all.take middle = (all.take upper).take middle := by
    rw [List.take_take, Nat.min_eq_left above]
  have dropped : (all.take upper).drop middle =
      ((all.take upper).drop lower).drop (middle - lower) := by
    rw [List.drop_drop, Nat.add_sub_cancel' below]
  unfold between
  rw [taken, List.drop_take, dropped, List.take_append_drop]

theorem Stage.index_of_mem_between {lower upper : Nat} {stage : Stage}
    (member : stage ∈ between lower upper) : stage.index < upper := by
  have taken : stage ∈ all.take upper := List.mem_of_mem_drop member
  clear member
  rcases upper with _ | _ | _ | _ | upper <;> cases stage <;> simp_all [all, index]

/-- What generations rest on besides the files: the collaborators' answers and the settings. -/
structure Basis (State Value : Type) where
  oracle : Oracle State Value
  settings : Settings

structure Reading where
  snapshot : Except FileError Bytes
  source : Except FileError Bytes

namespace Basis

variable {State Value : Type}

def usesSnapshot (basis : Basis State Value) : Bool :=
  basis.settings.selection.useSnapshot

def snapshotPath (basis : Basis State Value) : Path :=
  basis.settings.locations.snapshot

def sourcePath (basis : Basis State Value) : Path :=
  basis.settings.locations.compilerSource

def unit (basis : Basis State Value) (bytes : Bytes) : SourceUnit :=
  ⟨"compiler", basis.sourcePath, bytes⟩

def sourceUnit (basis : Basis State Value) (requester : Stage) :
    Except FileError Bytes → Except StageError SourceUnit
  | .ok bytes => .ok (basis.unit bytes)
  | .error error => .error (.source requester basis.sourcePath error.message)

def compiled (basis : Basis State Value) (reading : Reading) (stage : Stage) (origin : Origin)
    (compile : SourceUnit → Except CompileError Bytes) : Except StageError Artifact :=
  match basis.sourceUnit stage reading.source with
  | .error error => .error error
  | .ok unit => Ladder.accept stage origin (compile unit)

def first (basis : Basis State Value) (reading : Reading) : Except StageError Artifact :=
  if basis.usesSnapshot then Ladder.acceptSnapshot basis.snapshotPath reading.snapshot
  else basis.compiled reading .stage0 .host basis.oracle.host

def compilerOf (basis : Basis State Value) (artifact : Artifact) :
    SourceUnit → Except CompileError Bytes :=
  basis.oracle.compile artifact.bytes basis.settings.toolchain.compileExport

def next (basis : Basis State Value) (reading : Reading) (below stage : Stage) :
    Except StageError Artifact → Except StageError Artifact
  | .error error => .error (error.blocking stage)
  | .ok artifact =>
      basis.compiled reading stage (.compiledBy below) (basis.compilerOf artifact)

def generation (basis : Basis State Value) (reading : Reading) : Stage → Except StageError Artifact :=
  Stage.climb (basis.first reading) (basis.next reading)

theorem generation_stage0 (basis : Basis State Value) (reading : Reading) :
    basis.generation reading .stage0 = basis.first reading :=
  rfl

theorem generation_next (basis : Basis State Value) (reading : Reading) {below stage : Stage}
    (above : below.next? = some stage) :
    basis.generation reading stage =
      basis.next reading below stage (basis.generation reading below) :=
  Stage.climb_next _ _ above

theorem compiled_of_answer {basis : Basis State Value} {reading : Reading}
    {compile : SourceUnit → Except CompileError Bytes} {source output : Bytes}
    (read : reading.source = .ok source) (answer : compile (basis.unit source) = .ok output)
    (filled : output ≠ []) (stage : Stage) (origin : Origin) :
    basis.compiled reading stage origin compile = .ok ⟨stage, origin, output⟩ := by
  have written : output.isEmpty = false := by simpa using filled
  simp only [compiled, read, sourceUnit, answer, Ladder.accept, written, Bool.false_eq_true,
    if_false]

theorem source_of_compiled {basis : Basis State Value} {reading : Reading} {stage : Stage}
    {origin : Origin} {compile : SourceUnit → Except CompileError Bytes} {artifact : Artifact}
    (built : basis.compiled reading stage origin compile = .ok artifact) :
    ∃ bytes, reading.source = .ok bytes ∧ compile (basis.unit bytes) = .ok artifact.bytes ∧
      artifact = ⟨stage, origin, artifact.bytes⟩ ∧ artifact.bytes ≠ [] := by
  unfold compiled at built
  cases source : reading.source with
  | error error => simp [source, sourceUnit] at built
  | ok bytes =>
      simp only [source, sourceUnit, Ladder.accept] at built
      cases answer : compile (basis.unit bytes) with
      | error error => simp [answer] at built
      | ok made =>
          by_cases empty : made.isEmpty
          · simp [answer, empty] at built
          · simp only [answer, empty, Bool.false_eq_true, if_false, Except.ok.injEq] at built
            subst built
            exact ⟨bytes, rfl, answer, rfl, by simpa using empty⟩

theorem generation_of_compiled {basis : Basis State Value} {reading : Reading} {below stage : Stage}
    (above : below.next? = some stage) {artifact : Artifact}
    (built : basis.generation reading stage = .ok artifact) :
    ∃ lower bytes, basis.generation reading below = .ok lower ∧ reading.source = .ok bytes ∧
      basis.compilerOf lower (basis.unit bytes) = .ok artifact.bytes ∧
      artifact = ⟨stage, .compiledBy below, artifact.bytes⟩ ∧ artifact.bytes ≠ [] := by
  rw [basis.generation_next reading above] at built
  cases previous : basis.generation reading below with
  | error error => simp [previous, next] at built
  | ok lower =>
      rw [previous] at built
      obtain ⟨bytes, source, made⟩ := source_of_compiled built
      exact ⟨lower, bytes, rfl, source, made⟩

theorem generation_of_snapshot {basis : Basis State Value} {reading : Reading}
    (uses : basis.usesSnapshot = true) {artifact : Artifact}
    (built : basis.generation reading .stage0 = .ok artifact) :
    reading.snapshot = .ok artifact.bytes ∧ artifact = ⟨.stage0, .snapshot, artifact.bytes⟩ ∧
      artifact.bytes ≠ [] := by
  simp only [generation_stage0, first, uses, if_true, Ladder.acceptSnapshot] at built
  cases snapshot : reading.snapshot with
  | error error => simp [snapshot] at built
  | ok bytes =>
      by_cases empty : bytes.isEmpty
      · simp [snapshot, empty] at built
      · simp only [snapshot, empty, Bool.false_eq_true, if_false, Except.ok.injEq] at built
        subst built
        exact ⟨rfl, rfl, by simpa using empty⟩

theorem generation_of_host {basis : Basis State Value} {reading : Reading}
    (host : basis.usesSnapshot = false) {artifact : Artifact}
    (built : basis.generation reading .stage0 = .ok artifact) :
    ∃ bytes, reading.source = .ok bytes ∧ basis.oracle.host (basis.unit bytes) = .ok artifact.bytes ∧
      artifact = ⟨.stage0, .host, artifact.bytes⟩ ∧ artifact.bytes ≠ [] := by
  rw [generation_stage0, first, host] at built
  exact source_of_compiled built

theorem source_of_generation {basis : Basis State Value} {reading : Reading} {stage : Stage}
    {artifact : Artifact} (built : basis.generation reading stage = .ok artifact)
    (compiles : basis.usesSnapshot = true → stage ≠ .stage0) :
    ∃ bytes, reading.source = .ok bytes := by
  rcases stage.first_or_next with rfl | ⟨below, above⟩
  · have host : basis.usesSnapshot = false := by
      cases uses : basis.usesSnapshot
      · rfl
      · exact absurd rfl (compiles uses)
    obtain ⟨bytes, source, _⟩ := generation_of_host host built
    exact ⟨bytes, source⟩
  · obtain ⟨_, bytes, _, source, _⟩ := generation_of_compiled above built
    exact ⟨bytes, source⟩

theorem first_of_generation {basis : Basis State Value} {reading : Reading} {stage : Stage}
    {artifact : Artifact} (built : basis.generation reading stage = .ok artifact) :
    (basis.first reading).isOk = true := by
  induction stage using Stage.ascend generalizing artifact with
  | first => simp [← generation_stage0, built, Except.isOk, Except.toBool]
  | next below stage above ih =>
      obtain ⟨_, _, lower, _⟩ := generation_of_compiled above built
      exact ih lower

/-! The lowest `height` generations, and what of the files they have used. -/

def firstReader (basis : Basis State Value) : Stage :=
  if basis.usesSnapshot then .stage1 else .stage0

/-- A snapshot needs no source, and without a snapshot nothing is built that needs one. -/
def needsSource (basis : Basis State Value) (reading : Reading) (height : Nat) : Bool :=
  if basis.usesSnapshot then decide (1 < height) && (basis.first reading).isOk
  else decide (0 < height)

def cells (basis : Basis State Value) (reading : Reading) (height : Nat) : Cells where
  source :=
    if basis.needsSource reading height then
      some (basis.sourceUnit basis.firstReader reading.source)
    else none
  built := fun stage =>
    if stage.index < height then some (basis.generation reading stage) else none

/-- Two readings are the same where the lowest generations have used them. -/
structure Agree (basis : Basis State Value) (height : Nat) (reading other : Reading) : Prop where
  snapshot : basis.usesSnapshot = true → 0 < height → other.snapshot = reading.snapshot
  source : basis.needsSource reading height = true → other.source = reading.source

theorem Agree.refl (basis : Basis State Value) (height : Nat) (reading : Reading) :
    basis.Agree height reading reading :=
  ⟨fun _ _ => rfl, fun _ => rfl⟩

theorem needsSource_mono {basis : Basis State Value} {reading : Reading} {lower higher : Nat}
    (below : lower ≤ higher) (needs : basis.needsSource reading lower = true) :
    basis.needsSource reading higher = true := by
  unfold needsSource at needs ⊢
  cases uses : basis.usesSnapshot with
  | true =>
      simp only [uses, if_true, Bool.and_eq_true, decide_eq_true_eq] at needs ⊢
      exact ⟨by omega, needs.2⟩
  | false =>
      simp only [uses, Bool.false_eq_true, if_false, decide_eq_true_eq] at needs ⊢
      omega

theorem Agree.mono {basis : Basis State Value} {reading other : Reading} {lower higher : Nat}
    (below : lower ≤ higher) (agree : basis.Agree higher reading other) :
    basis.Agree lower reading other where
  snapshot := fun uses some => agree.snapshot uses (by omega)
  source := fun needs => agree.source (needsSource_mono below needs)

theorem first_of_agree {basis : Basis State Value} {reading other : Reading} {height : Nat}
    (agree : basis.Agree height reading other) (some : 0 < height) :
    basis.first other = basis.first reading := by
  unfold first
  cases uses : basis.usesSnapshot with
  | true => simp [agree.snapshot uses some]
  | false =>
      have needs : basis.needsSource reading height = true := by simp [needsSource, uses, some]
      simp [compiled, agree.source needs]

theorem needsSource_of_agree {basis : Basis State Value} {reading other : Reading} {height : Nat}
    (agree : basis.Agree height reading other) :
    basis.needsSource other height = basis.needsSource reading height := by
  unfold needsSource
  by_cases some : 0 < height
  · rw [first_of_agree agree some]
  · have none : height = 0 := by omega
    simp [none]

theorem Agree.trans {basis : Basis State Value} {reading middle other : Reading} {height : Nat}
    (left : basis.Agree height reading middle) (right : basis.Agree height middle other) :
    basis.Agree height reading other where
  snapshot := fun uses some => (right.snapshot uses some).trans (left.snapshot uses some)
  source := fun needs =>
    (right.source ((needsSource_of_agree left).trans needs)).trans (left.source needs)

theorem needsSource_of_generation {basis : Basis State Value} {reading : Reading}
    {stage : Stage} {artifact : Artifact} (built : basis.generation reading stage = .ok artifact)
    {height : Nat} (higher : stage.index + 1 < height) :
    basis.needsSource reading height = true := by
  simp [needsSource, first_of_generation built]
  split <;> omega

/-- A generation can be compiled: the one below it is built, or it is the host's to build. -/
structure Compilable (basis : Basis State Value) (reading : Reading) (stage : Stage) : Prop where
  below : ∀ below, below.next? = some stage → ∃ artifact, basis.generation reading below = .ok artifact
  host : stage = .stage0 → basis.usesSnapshot = false

theorem Compilable.of_host {basis : Basis State Value} (reading : Reading)
    (host : basis.usesSnapshot = false) : basis.Compilable reading .stage0 :=
  ⟨fun _ above => absurd rfl (Stage.ne_stage0_of_next above), fun _ => host⟩

theorem Compilable.of_next {basis : Basis State Value} {reading : Reading} {below stage : Stage}
    {artifact : Artifact} (above : below.next? = some stage)
    (built : basis.generation reading below = .ok artifact) : basis.Compilable reading stage where
  below := by
    intro candidate also
    have same : candidate.index = below.index := by
      have first := Stage.index_next above
      have second := Stage.index_next also
      omega
    exact ⟨artifact, Stage.index_inj same ▸ built⟩
  host := fun lowest => absurd lowest (Stage.ne_stage0_of_next above)

theorem Compilable.needsSource {basis : Basis State Value} {reading : Reading} {stage : Stage}
    (compilable : basis.Compilable reading stage) :
    basis.needsSource reading stage.index = !decide (stage = basis.firstReader) ∧
      basis.needsSource reading (stage.index + 1) = true := by
  rcases stage.first_or_next with rfl | ⟨below, above⟩
  · have host := compilable.host rfl
    simp [Basis.needsSource, firstReader, host, Stage.index]
  · obtain ⟨artifact, built⟩ := compilable.below below above
    have standing := first_of_generation built
    have step := Stage.index_next above
    cases uses : basis.usesSnapshot with
    | false =>
        have later := Stage.ne_stage0_of_next above
        simp only [Basis.needsSource, firstReader, uses, later, Bool.false_eq_true, if_false,
          decide_false, Bool.not_false, decide_eq_true_eq]
        omega
    | true =>
        simp only [Basis.needsSource, firstReader, uses, standing, if_true, Bool.and_true,
          decide_eq_true_eq]
        cases stage <;> simp [Stage.index] at step ⊢

theorem needsSource_of_blocked {basis : Basis State Value} {reading : Reading}
    {below stage : Stage} {error : StageError} (above : below.next? = some stage)
    (blocked : basis.generation reading below = .error error) :
    basis.needsSource reading (stage.index + 1) = basis.needsSource reading stage.index := by
  have step := Stage.index_next above
  unfold needsSource
  cases uses : basis.usesSnapshot with
  | false => simp [step]
  | true =>
      by_cases lowest : below = .stage0
      · subst lowest
        have failed : (basis.first reading).isOk = false := by
          rw [generation_stage0] at blocked
          simp [blocked, Except.isOk, Except.toBool]
        simp [failed]
      · have higher : 0 < below.index := by
          cases below <;> simp_all [Stage.index]
        have first : 1 < stage.index := by omega
        have second : 1 < stage.index + 1 := by omega
        simp [first, second]

/-- Whoever asks for the source after its first reader finds it there: a missing source has stopped
the first reader and all generations above it. -/
theorem Compilable.source {basis : Basis State Value} {reading : Reading} {stage : Stage}
    (compilable : basis.Compilable reading stage) (later : stage ≠ basis.firstReader) :
    ∃ bytes, reading.source = .ok bytes := by
  rcases stage.first_or_next with rfl | ⟨below, above⟩
  · have reads : Stage.stage0 = basis.firstReader := by simp [firstReader, compilable.host rfl]
    exact absurd reads later
  · obtain ⟨artifact, built⟩ := compilable.below below above
    refine source_of_generation built ?_
    rintro uses rfl
    simp only [Stage.next?, Option.some.injEq] at above
    subst above
    exact later (by simp [firstReader, uses])

theorem generation_of_agree {basis : Basis State Value} {reading other : Reading} {height : Nat}
    (agree : basis.Agree height reading other) (stage : Stage) (below : stage.index < height) :
    basis.generation other stage = basis.generation reading stage := by
  induction stage using Stage.ascend with
  | first => exact first_of_agree agree (by omega)
  | next lower stage above ih =>
      have step := Stage.index_next above
      rw [basis.generation_next reading above, basis.generation_next other above, ih (by omega)]
      cases built : basis.generation reading lower with
      | error error => rfl
      | ok artifact =>
          have needs : basis.needsSource reading height = true :=
            needsSource_of_generation built (by omega)
          simp [next, compiled, agree.source needs]

theorem Compilable.of_agree {basis : Basis State Value} {reading other : Reading} {stage : Stage}
    (compilable : basis.Compilable reading stage) (agree : basis.Agree stage.index reading other) :
    basis.Compilable other stage where
  below := by
    intro below above
    obtain ⟨artifact, built⟩ := compilable.below below above
    have step := Stage.index_next above
    exact ⟨artifact, (generation_of_agree agree below (by omega)).trans built⟩
  host := compilable.host

end Basis

end Bootstrap
