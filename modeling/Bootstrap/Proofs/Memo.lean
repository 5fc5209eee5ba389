import Bootstrap.Proofs.Climb

/-!
The cells remember plain recursion: whoever asks for a generation, and in whatever order, gets what
the recursion computes from one reading of each file, and nothing is asked for twice.
-/

namespace Bootstrap

namespace Ladder

variable {World Engine State Value : Type} {env : Environment World Engine Value}
  {Fits : World → Ledger Engine State → Prop} {account : Account}

theorem memo_apply (stage : Stage) (construct : Run World (Except StageError Artifact))
    (session : Session World) :
    memo stage construct session =
      match session.cells.built stage with
      | some result => (result, session)
      | none => ((construct session).1, { (construct session).2 with
          cells := (construct session).2.cells.fill stage (construct session).1 }) := by
  show (match session.cells.built stage with
    | some result => pure result
    | none => do
        let result ← construct
        modify fun session => { session with cells := session.cells.fill stage result }
        return result : Run World (Except StageError Artifact)) session = _
  cases session.cells.built stage <;> rfl

theorem build_next (env : Environment World Engine Value) (settings : Settings)
    {below stage : Stage} (above : below.next? = some stage) :
    build env settings stage =
      memo stage (construct env stage
        (constructNext env settings below stage (build env settings below))) :=
  Stage.climb_next _ _ above

theorem memo_known {stage : Stage} {construct : Run World (Except StageError Artifact)}
    {result : Except StageError Artifact} (known : account.cells.built stage = some result) :
    Run.Takes Fits account (memo stage construct) fun answer after =>
      answer = result ∧ after = account := by
  refine Run.Takes.look.bind ?_
  rintro session _ ⟨rfl, cells⟩
  rw [cells, known]
  exact Run.Takes.pure ⟨rfl, rfl⟩

theorem memo_fresh {stage : Stage} {construct : Run World (Except StageError Artifact)}
    {outcome : Except StageError Artifact → Account → Prop}
    (fresh : account.cells.built stage = none)
    (constructs : Run.Takes Fits account construct outcome) :
    Run.Takes Fits account (memo stage construct) fun answer after =>
      ∃ middle, outcome answer middle ∧
        after = { middle with cells := middle.cells.fill stage answer } := by
  refine Run.Takes.look.bind ?_
  rintro session _ ⟨rfl, cells⟩
  rw [cells, fresh]
  refine constructs.bind fun result middle held => ?_
  let filled : Account := { middle with cells := middle.cells.fill stage result }
  refine Run.Takes.bind (Run.Takes.change filled fun _ shows =>
    ⟨congrArg (Cells.fill · stage result) shows.1, shows.2.1, shows.2.2⟩) ?_
  rintro _ _ rfl
  exact Run.Takes.pure ⟨middle, held, rfl⟩

theorem announce_takes (apart : env.LogsApart Fits) (result : Except StageError Artifact) :
    Run.Takes Fits account (announce env result) fun _ after => after = account := by
  cases result <;> exact Run.Takes.say apart _ _ _

theorem construct_takes (apart : env.LogsApart Fits) {stage : Stage}
    {step : Run World (Except StageError Artifact)}
    {outcome : Except StageError Artifact → Account → Prop}
    (takes : Run.Takes Fits account step outcome) :
    Run.Takes Fits account (construct env stage step) outcome := by
  refine Run.Takes.within ?_
  refine Run.Takes.bind (Run.Takes.say apart _ _ _) ?_
  rintro _ _ rfl
  refine Run.Takes.bind takes fun result after held => ?_
  refine Run.Takes.bind (announce_takes apart result) ?_
  rintro _ _ rfl
  exact Run.Takes.pure held

variable {MayRead : Path → Except FileError Bytes → Prop}

theorem loadSnapshot_takes {basis : Basis State Value}
    (deterministic : Deterministic env basis.oracle MayRead Fits) :
    Run.Takes Fits account (loadSnapshot env basis.settings) fun answer after =>
      ∃ content, MayRead basis.snapshotPath content ∧
        answer = acceptSnapshot basis.snapshotPath content ∧
        after = account.ask [.read basis.snapshotPath content] := by
  refine Run.Takes.bind (Run.Takes.say deterministic.logsApart _ _ _) ?_
  rintro _ _ rfl
  refine Run.Takes.bind
    (Run.Takes.ask deterministic.logsApart (deterministic.read basis.snapshotPath)) ?_
  rintro content _ ⟨may, rfl⟩
  exact Run.Takes.pure ⟨content, may, rfl, rfl⟩

theorem compilerSource_known {settings : Settings} {requester : Stage}
    {result : Except StageError SourceUnit} (known : account.cells.source = some result) :
    Run.Takes Fits account (compilerSource env settings requester) fun answer after =>
      answer = result ∧ after = account := by
  refine Run.Takes.look.bind ?_
  rintro session _ ⟨rfl, cells⟩
  rw [cells, known]
  exact Run.Takes.pure ⟨rfl, rfl⟩

theorem compilerSource_fresh {basis : Basis State Value} {requester : Stage}
    (deterministic : Deterministic env basis.oracle MayRead Fits)
    (fresh : account.cells.source = none) :
    Run.Takes Fits account (compilerSource env basis.settings requester) fun answer after =>
      ∃ content, MayRead basis.sourcePath content ∧
        answer = basis.sourceUnit requester content ∧
        after = { account.ask [.read basis.sourcePath content] with
          cells := account.cells.fillSource (basis.sourceUnit requester content) } := by
  refine Run.Takes.look.bind ?_
  rintro session after ⟨same, cells⟩
  subst after
  rw [cells, fresh]
  refine Run.Takes.bind
    (Run.Takes.ask deterministic.logsApart (deterministic.read basis.sourcePath)) ?_
  rintro content _ ⟨may, rfl⟩
  let filled : Account := { account.ask [.read basis.sourcePath content] with
    cells := account.cells.fillSource (basis.sourceUnit requester content) }
  dsimp only
  refine Run.Takes.bind (Run.Takes.change filled fun _ shows => ?_) ?_
  · refine ⟨?_, shows.2.1, shows.2.2⟩
    dsimp only
    rw [shows.1]
    cases content <;> rfl
  · rintro _ _ rfl
    refine Run.Takes.pure ⟨content, may, ?_, rfl⟩
    cases content <;> rfl

variable {compiler : Compiler World} {compile : SourceUnit → Except CompileError Bytes}
  {request : SourceUnit → Event}

theorem accept_takes (apart : env.LogsApart Fits) {stage : Stage} {origin : Origin}
    (compiles : ∀ unit ledger, Act.Takes Fits ledger (compiler unit) fun answer after =>
      answer = compile unit ∧ after = ledger.add [request unit]) (unit : SourceUnit) :
    Run.Takes Fits account
      (do return accept stage origin (← Run.perform env (compiler unit))) fun answer after =>
        answer = accept stage origin (compile unit) ∧ after = account.ask [request unit] := by
  refine Run.Takes.bind (Run.Takes.ask apart (compiles unit)) ?_
  rintro _ _ ⟨rfl, rfl⟩
  exact Run.Takes.pure ⟨rfl, rfl⟩

theorem compileSource_takes {basis : Basis State Value}
    (deterministic : Deterministic env basis.oracle MayRead Fits)
    (compiles : ∀ unit ledger, Act.Takes Fits ledger (compiler unit) fun answer after =>
      answer = compile unit ∧ after = ledger.add [request unit])
    {reading : Reading} (possible : basis.Possible MayRead reading) {stage : Stage}
    (compilable : basis.Compilable reading stage) (origin : Origin) (entries : List Entry)
    (events : List Event) :
    Run.Takes Fits ⟨basis.cells reading stage.index, entries, events⟩
      (compileSource env basis.settings stage origin compiler) fun answer after =>
        ∃ other, basis.Agree stage.index reading other ∧ basis.Possible MayRead other ∧
          answer = basis.compiled other stage origin compile ∧
          after = ⟨{ basis.cells reading stage.index with
              source := some (basis.sourceUnit basis.firstReader other.source) },
            entries, events ++ basis.compileEvents other stage request⟩ := by
  have needs := compilable.needsSource.1
  by_cases reader : stage = basis.firstReader
  · have unneeded : basis.needsSource reading stage.index = false := by
      simpa [reader] using needs
    have unread : (basis.cells reading stage.index).source = none := by
      simp [Basis.cells, unneeded]
    refine Run.Takes.bind (compilerSource_fresh deterministic unread) ?_
    rintro _ _ ⟨content, may, rfl, rfl⟩
    let other : Reading := { reading with source := content }
    have agree : basis.Agree stage.index reading other :=
      ⟨fun _ _ => rfl, fun needed => by simp [unneeded] at needed⟩
    have sourceEq : basis.sourceUnit stage content = basis.sourceUnit basis.firstReader content :=
      congrArg (fun requester => basis.sourceUnit requester content) reader
    cases content with
    | error error =>
        refine Run.Takes.pure ⟨other, agree, ⟨possible.1, may⟩, rfl, ?_⟩
        simp [other, Account.ask, Cells.fillSource, Basis.compileEvents, reader]
    | ok bytes =>
        refine (accept_takes deterministic.logsApart compiles (basis.unit bytes)).mono ?_
        rintro _ _ ⟨rfl, rfl⟩
        refine ⟨other, agree, ⟨possible.1, may⟩, rfl, ?_⟩
        simp [other, Account.ask, Cells.fillSource, Basis.compileEvents, reader]
  · obtain ⟨bytes, source⟩ := compilable.source reader
    have known : (basis.cells reading stage.index).source = some (.ok (basis.unit bytes)) := by
      simp [Basis.cells, needs, reader, source, Basis.sourceUnit]
    refine Run.Takes.bind (compilerSource_known known) ?_
    rintro _ _ ⟨rfl, rfl⟩
    refine (accept_takes deterministic.logsApart compiles (basis.unit bytes)).mono ?_
    rintro _ _ ⟨rfl, rfl⟩
    refine ⟨reading, Basis.Agree.refl basis stage.index reading, possible, ?_, ?_⟩
    · simp [Basis.compiled, source, Basis.sourceUnit]
    · simp [Account.ask, Basis.compileEvents, reader, source, Basis.sourceUnit, ← known]

/-- A construction over the lowest generations builds those that are missing and ends with what its
own generation is, which is not in its cell yet. -/
def Constructs (basis : Basis State Value) (MayRead : Path → Except FileError Bytes → Prop)
    (Fits : World → Ledger Engine State → Prop) (reading : Reading) (height : Nat) (stage : Stage)
    (step : Run World (Except StageError Artifact)) : Prop :=
  ∀ entries events, basis.Possible MayRead reading →
    Run.Takes Fits ⟨basis.cells reading height, entries, events⟩ step fun answer after =>
      ∃ other, basis.Agree height reading other ∧ basis.Possible MayRead other ∧
        answer = basis.generation other stage ∧
        after = ⟨{ basis.cells other stage.index with
            source := (basis.cells other (stage.index + 1)).source },
          entries, events ++ basis.eventsBetween other height (stage.index + 1)⟩

theorem memo_leads {basis : Basis State Value} {reading : Reading} {height : Nat} {stage : Stage}
    {step : Run World (Except StageError Artifact)}
    (constructs : height ≤ stage.index → Constructs basis MayRead Fits reading height stage step) :
    basis.Leads MayRead Fits reading height (fun _ => max height (stage.index + 1))
      (memo stage step) (fun other => basis.generation other stage) (fun _ => [])
      (fun other => basis.eventsBetween other height (max height (stage.index + 1))) := by
  intro entries events possible
  by_cases known : stage.index < height
  · have higher : max height (stage.index + 1) = height := by omega
    have cell : (basis.cells reading height).built stage =
        some (basis.generation reading stage) := by
      simp [Basis.cells, known]
    refine (memo_known cell).mono ?_
    rintro _ _ ⟨rfl, rfl⟩
    refine ⟨reading, Basis.Agree.refl basis height reading, possible, rfl, ?_⟩
    simp [higher, Basis.eventsBetween_self]
  · have higher : max height (stage.index + 1) = stage.index + 1 := by omega
    have cell : (basis.cells reading height).built stage = none := by
      simp [Basis.cells, known]
    refine (memo_fresh cell (constructs (by omega) entries events possible)).mono ?_
    rintro _ _ ⟨_, ⟨other, agree, may, rfl, rfl⟩, rfl⟩
    refine ⟨other, agree, may, rfl, ?_⟩
    simp only [higher, Basis.fill_cells, List.append_nil]

theorem compileSource_constructs {basis : Basis State Value}
    (deterministic : Deterministic env basis.oracle MayRead Fits)
    (compiles : ∀ unit ledger, Act.Takes Fits ledger (compiler unit) fun answer after =>
      answer = compile unit ∧ after = ledger.add [request unit])
    {reading : Reading} {stage : Stage} (compilable : basis.Compilable reading stage)
    {origin : Origin}
    (made : ∀ other, basis.Agree stage.index reading other →
      basis.generation other stage = basis.compiled other stage origin compile)
    (own : ∀ other, basis.Agree stage.index reading other →
      basis.ownEvents other stage = basis.compileEvents other stage request) :
    Constructs basis MayRead Fits reading stage.index stage
      (compileSource env basis.settings stage origin compiler) := by
  intro entries events possible
  refine (compileSource_takes deterministic compiles possible compilable origin entries
    events).mono ?_
  rintro _ _ ⟨other, agree, may, rfl, rfl⟩
  have needs := (compilable.of_agree agree).needsSource.2
  refine ⟨other, agree, may, (made other agree).symm, ?_⟩
  rw [basis.eventsBetween_succ other (Nat.le_refl _), basis.eventsBetween_self, List.nil_append,
    own other agree, Basis.cells_of_agree agree]
  simp [Basis.cells, needs]

theorem constructFirst_constructs {basis : Basis State Value} {reading : Reading}
    (deterministic : Deterministic env basis.oracle MayRead Fits) :
    Constructs basis MayRead Fits reading 0 .stage0 (constructFirst env basis.settings) := by
  have chosen : constructFirst env basis.settings =
      if basis.usesSnapshot then loadSnapshot env basis.settings
      else compileSource env basis.settings .stage0 .host env.host := rfl
  rw [chosen]
  cases uses : basis.usesSnapshot with
  | false =>
      exact compileSource_constructs deterministic deterministic.host (.of_host reading uses)
        (fun other _ => by simp [Basis.generation_stage0, Basis.first, uses])
        (fun other _ => by simp [Basis.ownEvents, Stage.previous?, uses])
  | true =>
      intro entries events possible
      refine (loadSnapshot_takes deterministic).mono ?_
      rintro _ _ ⟨content, may, rfl, rfl⟩
      let other : Reading := { reading with snapshot := content }
      have agree : basis.Agree 0 reading other :=
        ⟨fun _ impossible => absurd impossible (by omega), fun _ => rfl⟩
      have first : basis.generation other .stage0 =
          acceptSnapshot basis.snapshotPath content := by
        simp [Basis.generation_stage0, Basis.first, uses, other]
      have own : basis.eventsBetween other 0 1 = [.read basis.snapshotPath content] := by
        simp [Basis.eventsBetween, Stage.between, Stage.all, Basis.ownEvents, Stage.previous?,
          uses, other]
      have source : (basis.cells other 1).source = none := by
        simp [Basis.cells, Basis.needsSource, uses]
      have lowest : Stage.stage0.index = 0 := rfl
      refine ⟨other, agree, ⟨may, possible.2⟩, first.symm, ?_⟩
      rw [lowest, source, own, Basis.cells_of_agree agree]
      simp [Account.ask, Basis.cells, Basis.needsSource, uses]

theorem constructNext_constructs {basis : Basis State Value} {reading : Reading} {height : Nat}
    (deterministic : Deterministic env basis.oracle MayRead Fits) {below stage : Stage}
    (above : below.next? = some stage) (lower : height ≤ stage.index)
    {previous : Run World (Except StageError Artifact)}
    (begins : basis.Leads MayRead Fits reading height (fun _ => max height (below.index + 1))
      previous (fun other => basis.generation other below) (fun _ => [])
      (fun other => basis.eventsBetween other height (max height (below.index + 1)))) :
    Constructs basis MayRead Fits reading height stage
      (constructNext env basis.settings below stage previous) := by
  intro entries events possible
  have step := Stage.index_next above
  have reached : max height (below.index + 1) = stage.index := by omega
  rw [reached] at begins
  refine (begins entries events possible).bind ?_
  rintro _ _ ⟨middle, agree, may, rfl, rfl⟩
  dsimp only
  rw [List.append_nil]
  cases built : basis.generation middle below with
  | error error =>
      refine Run.Takes.pure ⟨middle, agree, may, ?_, ?_⟩
      · rw [basis.generation_next middle above, built]
        rfl
      · rw [basis.eventsBetween_succ middle lower, Basis.ownEvents_of_blocked above built,
          List.append_nil]
        simp [Basis.cells, Basis.needsSource_of_blocked above built]
  | ok artifact =>
      have still (other : Reading) (later : basis.Agree stage.index middle other) :
          basis.generation other below = .ok artifact :=
        (Basis.generation_of_agree later below (by omega)).trans built
      have constructs : Constructs basis MayRead Fits middle stage.index stage
          (compileSource env basis.settings stage (.compiledBy below)
            (compilerOf env basis.settings artifact)) :=
        compileSource_constructs deterministic
          (deterministic.compile artifact.bytes basis.settings.toolchain.compileExport)
          (.of_next above built)
          (fun other later => by rw [basis.generation_next other above, still other later]; rfl)
          (fun other later =>
            Basis.ownEvents_of_compilable above (.of_next above (still other later)))
      refine (constructs entries _ may).mono ?_
      rintro _ _ ⟨other, later, possibly, rfl, rfl⟩
      refine ⟨other, agree.trans (later.mono lower), possibly, rfl, ?_⟩
      rw [List.append_assoc, ← Basis.eventsBetween_of_agree later,
        basis.eventsBetween_append other lower (Nat.le_succ _)]

/-- Whatever has been asked for before, a generation is what plain recursion makes it. -/
theorem build_leads {basis : Basis State Value}
    (deterministic : Deterministic env basis.oracle MayRead Fits) (stage : Stage)
    (reading : Reading) (height : Nat) :
    basis.Leads MayRead Fits reading height (fun _ => max height (stage.index + 1))
      (build env basis.settings stage) (fun other => basis.generation other stage) (fun _ => [])
      (fun other => basis.eventsBetween other height (max height (stage.index + 1))) := by
  induction stage using Stage.ascend with
  | first =>
      refine memo_leads fun lower entries events possible => ?_
      have lowest : height = 0 := by simpa [Stage.index] using lower
      subst lowest
      exact construct_takes deterministic.logsApart
        (constructFirst_constructs deterministic entries events possible)
  | next below stage above ih =>
      rw [build_next env basis.settings above]
      refine memo_leads fun lower entries events possible => ?_
      exact construct_takes deterministic.logsApart
        (constructNext_constructs deterministic above lower ih entries events possible)

theorem build_shown {basis : Basis State Value} {content : Path → Except FileError Bytes}
    (deterministic : Deterministic env basis.oracle (Basis.Steady content) Fits)
    {session : Session World} {height : Nat} {entries : List Entry} {events : List Event}
    (shows : session.Shows Fits ⟨basis.cells (basis.readingOf content) height, entries, events⟩)
    (stage : Stage) :
    (build env basis.settings stage session).1 =
      basis.generation (basis.readingOf content) stage := by
  have leads := build_leads deterministic stage (basis.readingOf content) height
  obtain ⟨_, ⟨answered, _⟩, _⟩ := leads.steady entries events _ shows
  exact answered

def compilerFor (env : Environment World Engine Value) (basis : Basis State Value)
    (reading : Reading) (stage : Stage) : Except StageError (Compiler World) :=
  match basis.generation reading stage with
  | .ok artifact => .ok (compilerOf env basis.settings artifact)
  | .error error => .error error

theorem compiler_leads {basis : Basis State Value}
    (deterministic : Deterministic env basis.oracle MayRead Fits) (stage : Stage)
    (reading : Reading) (height : Nat) :
    basis.Leads MayRead Fits reading height (fun _ => max height (stage.index + 1))
      (Ladder.compiler env basis.settings stage) (fun other => compilerFor env basis other stage)
      (fun _ => [])
      (fun other => basis.eventsBetween other height (max height (stage.index + 1))) := by
  intro entries events possible
  refine (build_leads deterministic stage reading height entries events possible).bind ?_
  rintro _ _ ⟨other, agree, may, rfl, rfl⟩
  unfold compilerFor
  dsimp only
  cases built : basis.generation other stage with
  | ok artifact => exact Run.Takes.pure ⟨other, agree, may, by rw [built], rfl⟩
  | error error => exact Run.Takes.pure ⟨other, agree, may, by rw [built], rfl⟩

end Ladder

end Bootstrap
