import Bootstrap.Proofs.Recording
import Bootstrap.Proofs.Requests
import Bootstrap.Proofs.ToyWorld

/-!
Purity of the bootstrap: in whatever order generations are asked for, and whatever becomes of the
files meanwhile, all of them descend from one reading of the snapshot and of the source.
-/

namespace Bootstrap

theorem Stage.exists_index {number : Nat} (low : number < 4) :
    ∃ stage : Stage, stage.index = number := by
  have cases : number = 0 ∨ number = 1 ∨ number = 2 ∨ number = 3 := by omega
  rcases cases with rfl | rfl | rfl | rfl
  · exact ⟨.stage0, rfl⟩
  · exact ⟨.stage1, rfl⟩
  · exact ⟨.stage2, rfl⟩
  · exact ⟨.stage3, rfl⟩

namespace Basis

variable {State Value : Type}

def filesRead (basis : Basis State Value) (reading : Reading) (height : Nat) : List Event :=
  (if basis.usesSnapshot = true ∧ 0 < height then [.read basis.snapshotPath reading.snapshot]
    else []) ++
      if basis.needsSource reading height then [.read basis.sourcePath reading.source] else []

theorem reads_compileEvents (basis : Basis State Value) (reading : Reading) (stage : Stage)
    {request : SourceUnit → Event} (other : ∀ unit, (request unit).isRead = false) :
    Event.reads (basis.compileEvents reading stage request) =
      if stage = basis.firstReader then [.read basis.sourcePath reading.source] else [] := by
  unfold compileEvents
  rw [Event.reads_append]
  have unread (unit : SourceUnit) : Event.reads [request unit] = [] := by
    simp [Event.reads, other]
  have asked : Event.reads [.read basis.sourcePath reading.source] =
      [.read basis.sourcePath reading.source] := rfl
  by_cases reader : stage = basis.firstReader
  · simp only [reader, if_true, asked]
    cases reading.source with
    | error error => rfl
    | ok bytes => rw [unread, List.append_nil]
  · simp only [reader, if_false]
    cases reading.source with
    | error error => rfl
    | ok bytes => exact unread _

theorem filesRead_of_compilable {basis : Basis State Value} {reading : Reading} {stage : Stage}
    (compilable : basis.Compilable reading stage) {request : SourceUnit → Event}
    (other : ∀ unit, (request unit).isRead = false) :
    basis.filesRead reading stage.index ++ Event.reads (basis.compileEvents reading stage request) =
      basis.filesRead reading (stage.index + 1) := by
  obtain ⟨before, after⟩ := compilable.needsSource
  rw [basis.reads_compileEvents reading stage other]
  have snapshot : (basis.usesSnapshot = true ∧ 0 < stage.index) ↔
      (basis.usesSnapshot = true ∧ 0 < stage.index + 1) := by
    cases uses : basis.usesSnapshot with
    | false => simp
    | true =>
        have higher : stage ≠ .stage0 := fun lowest => by simp [compilable.host lowest] at uses
        have positive : 0 < stage.index := by cases stage <;> simp_all [Stage.index]
        simp [positive]
  simp only [filesRead, before, after, snapshot]
  by_cases reader : stage = basis.firstReader <;> simp [reader]

theorem filesRead_succ (basis : Basis State Value) (reading : Reading) (stage : Stage) :
    basis.filesRead reading stage.index ++ Event.reads (basis.ownEvents reading stage) =
      basis.filesRead reading (stage.index + 1) := by
  rcases stage.first_or_next with rfl | ⟨below, above⟩
  · cases uses : basis.usesSnapshot with
    | true => simp [filesRead, ownEvents, Stage.previous?, Stage.index, needsSource, uses,
        Event.reads, Event.isRead]
    | false =>
        have own : basis.ownEvents reading .stage0 =
            basis.compileEvents reading .stage0 .host := by
          simp [ownEvents, Stage.previous?, uses]
        rw [own]
        exact filesRead_of_compilable (.of_host reading uses) fun _ => rfl
  · have step := Stage.index_next above
    cases built : basis.generation reading below with
    | error error =>
        have positive : 0 < stage.index := by omega
        rw [ownEvents_of_blocked above built]
        simp [filesRead, needsSource_of_blocked above built, Event.reads, positive]
    | ok artifact =>
        have compilable : basis.Compilable reading stage := .of_next above built
        rw [ownEvents_of_compilable above compilable]
        exact filesRead_of_compilable compilable fun _ => rfl

theorem reads_eventsBetween (basis : Basis State Value) (reading : Reading) {height : Nat}
    (low : height ≤ 4) :
    Event.reads (basis.eventsBetween reading 0 height) = basis.filesRead reading height := by
  induction height with
  | zero => simp [eventsBetween_self, filesRead, needsSource, Event.reads]
  | succ height ih =>
      obtain ⟨stage, rfl⟩ := Stage.exists_index (show height < 4 by omega)
      rw [basis.eventsBetween_succ reading (Nat.zero_le _), Event.reads_append, ih (by omega)]
      exact basis.filesRead_succ reading stage

end Basis

section

variable {World Engine State Value : Type}

/-- How the generations in the cells have come about. The host and the compilers are asked here in
any world of the kind, and for the one source that the cells keep. -/
structure Descent (env : Environment World Engine Value) (settings : Settings)
    (Holds : World → List (Engine × State) → Prop) (reading : Reading) (cells : Cells) :
    Prop where
  source : ∀ unit, cells.source = some (.ok unit) →
    ∃ bytes, reading.source = .ok bytes ∧
      unit = ⟨"compiler", settings.locations.compilerSource, bytes⟩
  snapshot : ∀ artifact, settings.selection.useSnapshot = true →
    cells.built .stage0 = some (.ok artifact) →
      reading.snapshot = .ok artifact.bytes ∧ artifact.origin = .snapshot
  host : ∀ artifact, settings.selection.useSnapshot = false →
    cells.built .stage0 = some (.ok artifact) →
      artifact.origin = .host ∧ ∃ unit, cells.source = some (.ok unit) ∧
        ∀ world, Holds world [] → ((env.host unit).alone world).answer = .ok artifact.bytes
  compiled : ∀ below stage artifact, below.next? = some stage →
    cells.built stage = some (.ok artifact) →
      artifact.origin = .compiledBy below ∧ ∃ lower unit, cells.built below = some (.ok lower) ∧
        cells.source = some (.ok unit) ∧
        ∀ world, Holds world [] →
          ((Compiler.ofModule env.engines lower.bytes settings.toolchain.compileExport unit).alone
            world).answer = .ok artifact.bytes

variable {env : Environment World Engine Value} {basis : Basis State Value}
  {Holds : World → List (Engine × State) → Prop} {MayRead : Path → Except FileError Bytes → Prop}

theorem Basis.built_cells {reading : Reading} {height : Nat} {stage : Stage}
    {result : Except StageError Artifact}
    (kept : (basis.cells reading height).built stage = some result) :
    stage.index < height ∧ basis.generation reading stage = result := by
  unfold cells at kept
  by_cases lower : stage.index < height
  · simp only [lower, if_true, Option.some.injEq] at kept
    exact ⟨lower, kept⟩
  · simp [lower] at kept

theorem Basis.source_cells {reading : Reading} {height : Nat} {bytes : Bytes}
    (needs : basis.needsSource reading height = true) (source : reading.source = .ok bytes) :
    (basis.cells reading height).source = some (.ok (basis.unit bytes)) := by
  simp [cells, needs, source, sourceUnit]

theorem Basis.descent (deterministic : Deterministic env basis.oracle MayRead (Uncounted Holds))
    (reading : Reading) (height : Nat) :
    Descent env basis.settings Holds reading (basis.cells reading height) where
  source := by
    intro unit kept
    unfold cells at kept
    cases needs : basis.needsSource reading height with
    | false => simp [needs] at kept
    | true =>
        cases source : reading.source with
        | error error => simp [needs, source, sourceUnit] at kept
        | ok bytes =>
            simp only [needs, source, sourceUnit, if_true, Option.some.injEq, Except.ok.injEq] at kept
            exact ⟨bytes, rfl, kept.symm⟩
  snapshot := by
    intro artifact uses kept
    obtain ⟨_, built⟩ := built_cells kept
    obtain ⟨snapshot, made, _⟩ := generation_of_snapshot uses built
    exact ⟨snapshot, by rw [made]⟩
  host := by
    intro artifact host kept
    obtain ⟨lower, built⟩ := built_cells kept
    obtain ⟨bytes, source, answer, made, _⟩ := generation_of_host host built
    have needs : basis.needsSource reading height = true := by
      have uses : basis.usesSnapshot = false := host
      simp only [Stage.index] at lower
      simp [needsSource, uses, lower]
    refine ⟨by rw [made], basis.unit bytes, source_cells needs source, fun world holds => ?_⟩
    have fits : Uncounted Holds world (.opened []) := holds
    obtain ⟨_, ⟨answered, _⟩, _⟩ := (deterministic.host (basis.unit bytes) _).alone fits
    rw [answered, answer]
  compiled := by
    intro below stage artifact above kept
    obtain ⟨lower, built⟩ := built_cells kept
    have step := Stage.index_next above
    obtain ⟨compiler, bytes, previous, source, answer, made, _⟩ := generation_of_compiled above built
    have needs : basis.needsSource reading height = true :=
      needsSource_of_generation previous (by omega)
    have keptBelow : (basis.cells reading height).built below = some (.ok compiler) := by
      have lowerBelow : below.index < height := by omega
      simp [cells, lowerBelow, previous]
    refine ⟨by rw [made], compiler, basis.unit bytes, keptBelow, source_cells needs source,
      fun world holds => ?_⟩
    have fits : Uncounted Holds world (.opened []) := holds
    obtain ⟨_, ⟨answered, _⟩, _⟩ := (deterministic.compile compiler.bytes
      basis.settings.toolchain.compileExport (basis.unit bytes) _).alone fits
    rw [answered]
    exact answer

def Call.recorded : Call World → Call (World × List Event)
  | .request asked => .request asked
  | .meanwhile change => .meanwhile fun world => (change world.1, world.2)

theorem Call.requests_recorded (calls : List (Call World)) :
    requests (calls.map Call.recorded) = requests calls := by
  unfold requests
  rw [List.filterMap_map]
  congr 1
  funext call
  cases call <;> rfl

theorem Call.Keeps.recorded {call : Call World} (keeps : call.Keeps (Uncounted Holds)) :
    call.recorded.Keeps (Recorded Holds) := by
  cases call with
  | request asked => trivial
  | meanwhile change =>
      exact fun world ledger fits => ⟨fits.record, keeps world.1 ledger fits.holds⟩

/-- The reads of the two files, as far as the cells show that these have been needed. -/
def Cells.filesRead (settings : Settings) (reading : Reading) (cells : Cells) : List Event :=
  (if settings.selection.useSnapshot && (cells.built .stage0).isSome then
      [.read settings.locations.snapshot reading.snapshot]
    else []) ++
      if cells.source.isSome then [.read settings.locations.compilerSource reading.source] else []

theorem Basis.filesRead_cells (reading : Reading) (height : Nat) :
    (basis.cells reading height).filesRead basis.settings reading =
      basis.filesRead reading height := by
  unfold Cells.filesRead Basis.filesRead
  congr 1
  · cases uses : basis.usesSnapshot with
    | false =>
        have host : basis.settings.selection.useSnapshot = false := uses
        simp [host]
    | true =>
        have snapshot : basis.settings.selection.useSnapshot = true := uses
        by_cases some : 0 < height <;> simp [snapshot, cells, Stage.index, some, snapshotPath]
  · cases needs : basis.needsSource reading height <;> simp [cells, needs, sourcePath]

theorem Call.serveAll_pure {oracle : Oracle State Value} {settings : Settings}
    (deterministic : Deterministic env oracle MayRead (Uncounted Holds))
    (readable : ∀ path, ∃ answer, MayRead path answer) (calls : List (Call World))
    (keeps : ∀ call ∈ calls, call.Keeps (Uncounted Holds)) (world : World) (logger : Log.Logger)
    (holds : Holds world []) :
    ∃ reading, MayRead settings.locations.snapshot reading.snapshot ∧
      MayRead settings.locations.compilerSource reading.source ∧
      (∀ content : Path → Except FileError Bytes,
        (∀ path answer, MayRead path answer → answer = content path) →
          reading = ⟨content settings.locations.snapshot,
            content settings.locations.compilerSource⟩) ∧
      ∃ responses final,
        serveAll env.recorded settings (calls.map Call.recorded) (.start (world, []) logger) =
          (responses, final) ∧
        responses = (requests calls).map ((Basis.mk oracle settings).answer env.recorded reading) ∧
        (∀ request ∈ requests calls, ∀ stage, request.Needs settings stage →
          (final.cells.built stage).isSome = true) ∧
        (∀ stage result, final.cells.built stage = some result →
          result = (Basis.mk oracle settings).generation reading stage) ∧
        Event.reads final.world.2 = final.cells.filesRead settings reading ∧
        Descent env settings Holds reading final.cells := by
  let basis : Basis State Value := ⟨oracle, settings⟩
  have plain : Deterministic env basis.oracle MayRead (Uncounted Holds) := deterministic
  obtain ⟨snapshot, maySnapshot⟩ := readable basis.snapshotPath
  obtain ⟨source, maySource⟩ := readable basis.sourcePath
  have possible : basis.Possible MayRead ⟨snapshot, source⟩ := ⟨maySnapshot, maySource⟩
  have recorded := plain.recorded
  have kept : ∀ call ∈ calls.map Call.recorded, call.Keeps (Recorded Holds) := by
    intro call member
    obtain ⟨original, present, rfl⟩ := List.mem_map.mp member
    exact (keeps original present).recorded
  have shows : (Session.start (world, []) logger).Shows (Recorded Holds) ⟨.empty, [], []⟩ :=
    ⟨rfl, rfl, rfl, holds⟩
  obtain ⟨after, ⟨reading, height, _, low, _, may, answered, needed, cells, reads⟩, finalCells, _,
    fits⟩ := serveAll_takes recorded (calls.map Call.recorded) kept possible (Nat.zero_le 4)
      (basis.cells_zero _).symm _ shows
  rw [requests_recorded] at answered needed
  rw [cells] at finalCells
  refine ⟨reading, may.1, may.2, ?_, _, _, rfl, answered, ?_, ?_, ?_, ?_⟩
  · intro content fixed
    have first : reading.snapshot = content settings.locations.snapshot := fixed _ _ may.1
    have second : reading.source = content settings.locations.compilerSource := fixed _ _ may.2
    rw [← first, ← second]
  · intro request member stage needs
    have lower := needed request member stage needs
    rw [finalCells]
    simp [Basis.cells, lower]
  · intro stage result built
    rw [finalCells] at built
    exact (Basis.built_cells built).2.symm
  · have record : _ = after.events := fits.record
    rw [record, reads, finalCells]
    rw [basis.filesRead_cells, basis.reads_eventsBetween reading low]
    rfl
  · rw [finalCells]
    exact Basis.descent plain reading height

end

def Toy.rewriting : List (Call Toy.World) :=
  [.request (.build .stage1),
    .meanwhile fun world =>
      { world with
        files := world.files.write ⟨"compiler/compiler.src"⟩ (Utf8.encode "compiler other") },
    .request (.build .stage2), .request (.build .stage1)]

theorem Toy.rewriting_pure :
    ∃ reading responses final,
      Call.serveAll (Toy.environment none false).recorded .default
          (Toy.rewriting.map Call.recorded)
          (.start (Toy.World.start (.ofList [(⟨"compiler/compiler.src"⟩,
            Utf8.encode "compiler $NEXT")]) [], []) (Log.Logger.new .info 0)) =
        (responses, final) ∧
      responses =
        [.build ((Basis.mk (Toy.oracle none false) .default).generation reading .stage1),
          .build ((Basis.mk (Toy.oracle none false) .default).generation reading .stage2),
          .build ((Basis.mk (Toy.oracle none false) .default).generation reading .stage1)] ∧
      Event.reads final.world.2 = final.cells.filesRead .default reading := by
  have keeps : ∀ call ∈ Toy.rewriting,
      call.Keeps (Uncounted (Toy.Holds fun _ _ => True)) := by
    simp only [Toy.rewriting, List.forall_mem_cons, Call.Keeps, true_and]
    exact ⟨fun world ledger holds => ⟨holds.same, trivial⟩, by simp⟩
  obtain ⟨reading, _, _, _, responses, final, served, answered, _, _, reads, _⟩ :=
    Call.serveAll_pure (Toy.deterministic none false fun _ _ => True)
      (fun path => ⟨_, Toy.World.start .empty [], trivial, rfl⟩) Toy.rewriting keeps
      (Toy.World.start (.ofList [(⟨"compiler/compiler.src"⟩, Utf8.encode "compiler $NEXT")]) [])
      (Log.Logger.new .info 0) ⟨by simp, trivial⟩
  exact ⟨reading, responses, final, served, answered, reads⟩

end Bootstrap
