import Bootstrap.Proofs.Account
import Bootstrap.Proofs.Generation

/-!
Steps that ask for generations: each raises the height up to which the cells are filled, and asks
only for what the generations above the old height need.
-/

namespace Bootstrap

namespace Basis

variable {State Value : Type}

def compileEvents (basis : Basis State Value) (reading : Reading) (stage : Stage)
    (request : SourceUnit → Event) : List Event :=
  (if stage = basis.firstReader then [.read basis.sourcePath reading.source] else []) ++
    match reading.source with
    | .ok bytes => [request (basis.unit bytes)]
    | .error _ => []

/-- What is asked for to build one generation when those below are there. -/
def ownEvents (basis : Basis State Value) (reading : Reading) (stage : Stage) : List Event :=
  match stage.previous? with
  | none =>
      if basis.usesSnapshot then [.read basis.snapshotPath reading.snapshot]
      else basis.compileEvents reading stage .host
  | some below =>
      match basis.generation reading below with
      | .error _ => []
      | .ok _ => basis.compileEvents reading stage fun _ => .engine

def eventsBetween (basis : Basis State Value) (reading : Reading) (lower upper : Nat) :
    List Event :=
  (Stage.between lower upper).flatMap (basis.ownEvents reading)

def Possible (basis : Basis State Value) (MayRead : Path → Except FileError Bytes → Prop)
    (reading : Reading) : Prop :=
  MayRead basis.snapshotPath reading.snapshot ∧ MayRead basis.sourcePath reading.source

theorem cells_of_agree {basis : Basis State Value} {reading other : Reading} {height : Nat}
    (agree : basis.Agree height reading other) :
    basis.cells other height = basis.cells reading height := by
  unfold cells
  congr 1
  · rw [needsSource_of_agree agree]
    split
    · rename_i needs
      rw [agree.source needs]
    · rfl
  · funext stage
    split
    · rename_i below
      rw [generation_of_agree agree stage below]
    · rfl

theorem cells_zero (basis : Basis State Value) (reading : Reading) :
    basis.cells reading 0 = .empty := by
  simp [cells, needsSource, Cells.empty]

theorem fill_cells (basis : Basis State Value) (reading : Reading) (stage : Stage) :
    Cells.fill { basis.cells reading stage.index with
        source := (basis.cells reading (stage.index + 1)).source } stage
      (basis.generation reading stage) = basis.cells reading (stage.index + 1) := by
  simp only [Cells.fill, cells, Cells.mk.injEq, true_and]
  funext candidate
  by_cases same : candidate = stage
  · simp [same]
  · have different : candidate.index ≠ stage.index := fun equal => same (Stage.index_inj equal)
    by_cases below : candidate.index < stage.index
    · simp [same, below, Nat.lt_succ_of_lt below]
    · have notBelow : ¬candidate.index < stage.index + 1 := by omega
      simp [same, below, notBelow]

theorem ownEvents_of_compilable {basis : Basis State Value} {reading : Reading} {below stage : Stage}
    (above : below.next? = some stage) (compilable : basis.Compilable reading stage) :
    basis.ownEvents reading stage = basis.compileEvents reading stage fun _ => .engine := by
  obtain ⟨artifact, built⟩ := compilable.below below above
  simp [ownEvents, (Stage.next?_eq_some_iff below stage).mp above, built]

theorem ownEvents_of_blocked {basis : Basis State Value} {reading : Reading} {below stage : Stage}
    {error : StageError} (above : below.next? = some stage)
    (blocked : basis.generation reading below = .error error) :
    basis.ownEvents reading stage = [] := by
  simp [ownEvents, (Stage.next?_eq_some_iff below stage).mp above, blocked]

theorem ownEvents_of_agree {basis : Basis State Value} {reading other : Reading} {height : Nat}
    (agree : basis.Agree height reading other) (stage : Stage) (lower : stage.index < height) :
    basis.ownEvents other stage = basis.ownEvents reading stage := by
  have sourced : basis.Compilable reading stage → other.source = reading.source :=
    fun compilable => agree.source (needsSource_mono lower compilable.needsSource.2)
  rcases stage.first_or_next with rfl | ⟨below, above⟩
  · have lowest : Stage.stage0.previous? = none := rfl
    cases uses : basis.usesSnapshot with
    | true => simp [ownEvents, lowest, uses, agree.snapshot uses (by omega)]
    | false => simp [ownEvents, lowest, uses, compileEvents, sourced (.of_host reading uses)]
  · have previous := (Stage.next?_eq_some_iff below stage).mp above
    have step := Stage.index_next above
    have same := generation_of_agree agree below (by omega)
    simp only [ownEvents, previous, same]
    cases built : basis.generation reading below with
    | error error => rfl
    | ok artifact => simp [compileEvents, sourced (.of_next above built)]

theorem eventsBetween_of_agree {basis : Basis State Value} {reading other : Reading}
    {lower upper : Nat} (agree : basis.Agree upper reading other) :
    basis.eventsBetween other lower upper = basis.eventsBetween reading lower upper := by
  unfold eventsBetween
  rw [List.flatMap_def, List.flatMap_def]
  congr 1
  exact List.map_congr_left fun stage member =>
    ownEvents_of_agree agree stage (Stage.index_of_mem_between member)

theorem eventsBetween_self (basis : Basis State Value) (reading : Reading) (height : Nat) :
    basis.eventsBetween reading height height = [] := by
  simp [eventsBetween, Stage.between_self]

theorem eventsBetween_succ (basis : Basis State Value) (reading : Reading) {lower : Nat}
    {stage : Stage} (below : lower ≤ stage.index) :
    basis.eventsBetween reading lower (stage.index + 1) =
      basis.eventsBetween reading lower stage.index ++ basis.ownEvents reading stage := by
  simp [eventsBetween, Stage.between_succ below]

theorem eventsBetween_append (basis : Basis State Value) (reading : Reading)
    {lower middle upper : Nat} (below : lower ≤ middle) (above : middle ≤ upper) :
    basis.eventsBetween reading lower middle ++ basis.eventsBetween reading middle upper =
      basis.eventsBetween reading lower upper := by
  simp [eventsBetween, ← Stage.between_append below above]

def Steady (content : Path → Except FileError Bytes) (path : Path)
    (answer : Except FileError Bytes) : Prop :=
  answer = content path

def readingOf (basis : Basis State Value) (content : Path → Except FileError Bytes) : Reading :=
  ⟨content basis.snapshotPath, content basis.sourcePath⟩

theorem possible_readingOf (basis : Basis State Value) (content : Path → Except FileError Bytes) :
    basis.Possible (Steady content) (basis.readingOf content) :=
  ⟨rfl, rfl⟩

theorem eq_readingOf {basis : Basis State Value} {content : Path → Except FileError Bytes}
    {reading : Reading} (possible : basis.Possible (Steady content) reading) :
    reading = basis.readingOf content := by
  have snapshot : reading.snapshot = content basis.snapshotPath := possible.1
  have source : reading.source = content basis.sourcePath := possible.2
  rw [readingOf, ← snapshot, ← source]

/-- Begun when the lowest generations up to `lower` are in their cells, a step ends when they are
there up to `upper`. What it answers, reports and asks for depends on one reading, which agrees with
what has been read before. -/
def Leads {World Engine α : Type} (basis : Basis State Value)
    (MayRead : Path → Except FileError Bytes → Prop) (Fits : World → Ledger Engine State → Prop)
    (reading : Reading) (lower : Nat) (upper : Reading → Nat) (step : Run World α)
    (result : Reading → α) (told : Reading → List Entry) (asked : Reading → List Event) : Prop :=
  ∀ entries events, basis.Possible MayRead reading →
    Run.Takes Fits ⟨basis.cells reading lower, entries, events⟩ step fun answer after =>
      ∃ other, basis.Agree lower reading other ∧ basis.Possible MayRead other ∧
        answer = result other ∧
        after = ⟨basis.cells other (upper other), entries ++ told other, events ++ asked other⟩

namespace Leads

variable {World Engine α β : Type} {basis : Basis State Value}
  {MayRead : Path → Except FileError Bytes → Prop} {Fits : World → Ledger Engine State → Prop}
  {reading : Reading} {lower : Nat}

theorem pure (result : Reading → α) :
    basis.Leads MayRead Fits reading lower (fun _ => lower) (Pure.pure (result reading)) result
      (fun _ => []) (fun _ => []) :=
  fun _ _ possible => Run.Takes.pure
    ⟨reading, Agree.refl basis lower reading, possible, rfl, by simp⟩

theorem map {step : Run World α} {upper : Reading → Nat} {result : Reading → α}
    {told : Reading → List Entry} {asked : Reading → List Event}
    (leads : basis.Leads MayRead Fits reading lower upper step result told asked) (wrap : α → β) :
    basis.Leads MayRead Fits reading lower upper (do return wrap (← step))
      (fun other => wrap (result other)) told asked := by
  intro entries events possible
  refine (leads entries events possible).bind ?_
  rintro _ _ ⟨other, agree, may, rfl, rfl⟩
  exact Run.Takes.pure ⟨other, agree, may, rfl, rfl⟩

theorem within {name : String} {upper : Reading → Nat} {step : Run World α}
    {result : Reading → α} {told : Reading → List Entry} {asked : Reading → List Event}
    (leads : basis.Leads MayRead Fits reading lower upper step result told asked) :
    basis.Leads MayRead Fits reading lower upper (Run.within name step) result told asked :=
  fun entries events possible => (leads entries events possible).within

theorem steady {content : Path → Except FileError Bytes} {upper : Reading → Nat}
    {step : Run World α} {result : Reading → α} {told : Reading → List Entry}
    {asked : Reading → List Event}
    (leads : basis.Leads (Steady content) Fits (basis.readingOf content) lower upper step result told
      asked) (entries : List Entry) (events : List Event) :
    Run.Takes Fits ⟨basis.cells (basis.readingOf content) lower, entries, events⟩ step
      fun answer after => answer = result (basis.readingOf content) ∧
        after = ⟨basis.cells (basis.readingOf content) (upper (basis.readingOf content)),
          entries ++ told (basis.readingOf content),
          events ++ asked (basis.readingOf content)⟩ := by
  refine (leads entries events (basis.possible_readingOf content)).mono ?_
  rintro _ _ ⟨other, _, may, rfl, rfl⟩
  rw [eq_readingOf may]
  exact ⟨rfl, rfl⟩

variable {env : Environment World Engine Value}

theorem after_say (apart : env.LogsApart Fits) {level : Log.Level} {target message : String}
    {upper : Reading → Nat} {next : Run World α} {result : Reading → α}
    {told : Reading → List Entry} {asked : Reading → List Event}
    (leads : basis.Leads MayRead Fits reading lower upper next result told asked) :
    basis.Leads MayRead Fits reading lower upper
      (Run.say env level target message >>= fun _ => next) result told asked := by
  intro entries events possible
  refine Run.Takes.bind (Run.Takes.say apart level target message) ?_
  rintro _ _ rfl
  exact leads entries events possible

end Leads

end Basis

end Bootstrap
