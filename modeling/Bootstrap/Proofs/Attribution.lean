import Bootstrap.Proofs.Memo
import Bootstrap.Proofs.Remarks

/-!
What the construction of a generation leaves in the log: whoever asks first finds a start, for a
snapshot that it is loaded, and an outcome, all in one span that was entered for this construction;
whoever asks again finds nothing new. A generation that rests on a failed one keeps that failure as
its cause, so the outcome of only one construction is an error.
-/

namespace Bootstrap

namespace Ladder

def startNote (stage : Stage) : Note :=
  ⟨.info, Log.Target.stage, "building " ++ stage.name⟩

def loadingNotes (settings : Settings) : Stage → List Note
  | .stage0 =>
      if settings.selection.useSnapshot then
        [⟨.debug, Log.Target.stage, "loading snapshot " ++ settings.locations.snapshot.text⟩]
      else []
  | _ => []

def outcomeNote : Except StageError Artifact → Note
  | .ok artifact => ⟨.info, Log.Target.stage, artifact.line⟩
  | .error error =>
      ⟨if error.isDependency then .warn else .error, Log.Target.stage, error.message⟩

def constructionNotes (settings : Settings) (stage : Stage)
    (result : Except StageError Artifact) : List Note :=
  startNote stage :: loadingNotes settings stage ++ [outcomeNote result]

end Ladder

/-- What is told about a generation, between two looks at its cell. -/
def Chronicle.Attributes (settings : Settings) (told : Chronicle) (stage : Stage)
    (before later : Option (Except StageError Artifact)) : Prop :=
  later = before ∧ told.remarksAbout stage = [] ∧ told.openingsAbout stage = [] ∨
    before = none ∧ ∃ result number, later = some result ∧
      told.openingsAbout stage = [⟨some stage, ⟨number, "build_stage"⟩⟩] ∧
      told.remarksAbout stage = (Ladder.constructionNotes settings stage result).map fun note =>
        ⟨some stage, note, some number⟩

theorem Chronicle.Attributes.trans {settings : Settings} {told more : Chronicle} {stage : Stage}
    {before middle later : Option (Except StageError Artifact)}
    (left : told.Attributes settings stage before middle)
    (right : more.Attributes settings stage middle later) :
    (told ++ more).Attributes settings stage before later := by
  rcases left with ⟨rfl, noRemarks, noOpenings⟩ | ⟨fresh, result, number, rfl, opened, noted⟩
  · simpa [Attributes, noRemarks, noOpenings] using right
  · rcases right with ⟨rfl, noRemarks, noOpenings⟩ | ⟨impossible, _⟩
    · exact .inr ⟨fresh, result, number, rfl, by simp [opened, noOpenings],
        by simp [noted, noRemarks]⟩
    · cases impossible

theorem Chronicle.Attributes.silent {settings : Settings} {told : Chronicle} {stage : Stage}
    {before later : Option (Except StageError Artifact)}
    (attributes : told.Attributes settings stage before later) (same : later = before) :
    told.remarksAbout stage = [] ∧ told.openingsAbout stage = [] := by
  rcases attributes with ⟨_, noRemarks, noOpenings⟩ | ⟨fresh, result, number, built, _⟩
  · exact ⟨noRemarks, noOpenings⟩
  · rw [same, fresh] at built
    cases built

namespace Cells

def Follows (stage : Stage) (lower result : Except StageError Artifact) : Prop :=
  match lower with
  | .error error => result = .error (error.blocking stage)
  | .ok _ => ∀ error, result = .error error → error.isDependency = false

structure Bears (cells : Cells) (stage : Stage) (result : Except StageError Artifact) : Prop where
  first : stage = .stage0 → ∀ error, result = .error error → error.isDependency = false
  next : ∀ below, below.next? = some stage →
    ∃ lower, cells.built below = some lower ∧ Follows stage lower result

/-- The cells have been filled from below, and failures in them are passed on upwards. -/
structure Ordered (cells : Cells) : Prop where
  source : ∀ error, cells.source = some (.error error) → error.isDependency = false
  bears : ∀ stage result, cells.built stage = some result → cells.Bears stage result

theorem ordered_empty : empty.Ordered where
  source := by
    intro error impossible
    cases impossible
  bears := by
    intro stage result impossible
    cases impossible

theorem Ordered.fill {cells : Cells} (ordered : cells.Ordered) {stage : Stage}
    (fresh : cells.built stage = none) {result : Except StageError Artifact}
    (bears : cells.Bears stage result) : (cells.fill stage result).Ordered where
  source := ordered.source
  bears := by
    intro other known found
    -- What is built below a generation is not the one that is being filled in.
    have lower : ∀ below lower, cells.built below = some lower →
        (cells.fill stage result).built below = some lower := by
      intro below lower present
      have different : below ≠ stage := by
        rintro rfl
        rw [fresh] at present
        cases present
      simp [Cells.fill, different, present]
    have kept : cells.Bears other known := by
      by_cases same : other = stage
      · subst same
        have result : result = known := by simpa [Cells.fill] using found
        exact result ▸ bears
      · have old : cells.built other = some known := by simpa [Cells.fill, same] using found
        exact ordered.bears other known old
    refine ⟨kept.first, fun below above => ?_⟩
    obtain ⟨one, present, follows⟩ := kept.next below above
    exact ⟨one, lower below one present, follows⟩

theorem Ordered.fillSource {cells : Cells} (ordered : cells.Ordered)
    {result : Except StageError SourceUnit}
    (root : ∀ error, result = .error error → error.isDependency = false) :
    (cells.fillSource result).Ordered where
  source := fun error failed => root error (Option.some.inj failed)
  bears := fun stage known found =>
    have kept := ordered.bears stage known found
    ⟨kept.first, kept.next⟩

end Cells

variable {World Engine Value α β : Type}

/-- What one part of a run tells, and what it leaves in the cells. -/
structure Session.Tells (env : Environment World Engine Value) (settings : Settings)
    (session : Session World) (told : Chronicle) (later : Session World) : Prop where
  logs : session.Logs env settings told later
  attributes : ∀ stage, told.Attributes settings stage (session.cells.built stage)
    (later.cells.built stage)
  ordered : session.cells.Ordered → later.cells.Ordered

namespace Session.Tells

variable {env : Environment World Engine Value} {settings : Settings}
  {session middle later : Session World} {told more : Chronicle}

theorem trans (left : session.Tells env settings told middle)
    (right : middle.Tells env settings more later) :
    session.Tells env settings (told ++ more) later where
  logs := left.logs.trans right.logs
  attributes := fun stage => (left.attributes stage).trans (right.attributes stage)
  ordered := fun ordered => right.ordered (left.ordered ordered)

end Session.Tells

structure Session.Passes (env : Environment World Engine Value) (settings : Settings)
    (session : Session World) (told : Chronicle) (later : Session World) : Prop where
  logs : session.Logs env settings told later
  remarks : ∀ remark ∈ told.remarks, remark.about = none
  openings : ∀ opening ∈ told.openings, opening.about = none
  built : later.cells.built = session.cells.built
  ordered : session.cells.Ordered → later.cells.Ordered

namespace Session.Passes

variable {env : Environment World Engine Value} {settings : Settings}
  {session middle later : Session World} {told more : Chronicle}

theorem refl (session : Session World) : session.Passes env settings .empty session where
  logs := .of_same rfl
  remarks := by simp [Chronicle.empty]
  openings := by simp [Chronicle.empty]
  built := rfl
  ordered := id

theorem trans (left : session.Passes env settings told middle)
    (right : middle.Passes env settings more later) :
    session.Passes env settings (told ++ more) later where
  logs := left.logs.trans right.logs
  remarks := by
    intro remark member
    exact (List.mem_append.mp member).elim (left.remarks remark) (right.remarks remark)
  openings := by
    intro opening member
    exact (List.mem_append.mp member).elim (left.openings opening) (right.openings opening)
  built := right.built.trans left.built
  ordered := fun ordered => right.ordered (left.ordered ordered)

theorem remarksAbout (passes : session.Passes env settings told later) (stage : Stage) :
    told.remarksAbout stage = [] := by
  refine List.filter_eq_nil_iff.mpr fun remark member => ?_
  simp [passes.remarks remark member]

theorem openingsAbout (passes : session.Passes env settings told later) (stage : Stage) :
    told.openingsAbout stage = [] := by
  refine List.filter_eq_nil_iff.mpr fun opening member => ?_
  simp [passes.openings opening member]

theorem tells (passes : session.Passes env settings told later) :
    session.Tells env settings told later where
  logs := passes.logs
  attributes := by
    intro stage
    left
    exact ⟨by rw [passes.built], passes.remarksAbout stage, passes.openingsAbout stage⟩
  ordered := passes.ordered

end Session.Passes

theorem Session.passes_perform (env : Environment World Engine Value) (settings : Settings)
    (session : Session World) (action : Act World α)
    (utters : ∀ journal world, ∀ note ∈ (action journal world).notes, env.Utters settings note) :
    ∃ told, session.Passes env settings told (Run.perform env action session).2 := by
  refine ⟨_, session.logs_after env settings (action (session.journal env) session.world)
    (utters _ _), ?_, ?_, rfl, id⟩
  · simp
  · simp


namespace Ladder

variable (env : Environment World Engine Value) (settings : Settings)

/-- What leads to the result of a generation, in its own span and with its cell still empty. -/
structure Prepares (stage : Stage) (session : Session World) (told : Chronicle)
    (result : Except StageError Artifact) (later : Session World) : Prop where
  logs : session.Logs env settings told later
  openings : told.openingsAbout stage = []
  remarks : told.remarksAbout stage = (loadingNotes settings stage).map fun note =>
    ⟨some stage, note, session.logger.tag?⟩
  attributes : ∀ other, other ≠ stage →
    told.Attributes settings other (session.cells.built other) (later.cells.built other)
  above : ∀ higher : Stage, stage ≤ higher →
    later.cells.built higher = session.cells.built higher
  ordered : session.cells.Ordered → later.cells.Ordered ∧ later.cells.Bears stage result

def told (stage : Stage) (number : Nat) (inner : Chronicle)
    (result : Except StageError Artifact) : Chronicle :=
  Chronicle.inside ⟨some stage, ⟨number, "build_stage"⟩⟩
    (.single ⟨some stage, startNote stage, some number⟩ ++ inner ++
      .single ⟨some stage, outcomeNote result, some number⟩)

structure Answers (stage : Stage) (session : Session World) (told : Chronicle)
    (result : Except StageError Artifact) (later : Session World) : Prop where
  tells : session.Tells env settings told later
  answered : later.cells.built stage = some result
  nested : session.cells.built stage = none →
    ∃ inner, told = Ladder.told stage session.logger.nextSpan inner result
  above : ∀ higher : Stage, stage < higher →
    later.cells.built higher = session.cells.built higher

theorem announce_apply (result : Except StageError Artifact) (session : Session World) :
    announce env result session = ((), session.logged env (outcomeNote result)) := by
  cases result <;> rfl

def opened (stage : Stage) (session : Session World) : Session World :=
  { session with logger := session.logger.enter "build_stage" }.logged env (startNote stage)

theorem construct_apply (stage : Stage) (step : Run World (Except StageError Artifact))
    (session : Session World) :
    construct env stage step session =
      ((step (opened env stage session)).1,
        let announced := (step (opened env stage session)).2.logged env
          (outcomeNote (step (opened env stage session)).1)
        { announced with logger := announced.logger.leave }) := by
  show ((step (opened env stage session)).1,
    let announced := (announce env (step (opened env stage session)).1
      (step (opened env stage session)).2).2
    { announced with logger := announced.logger.leave }) = _
  rw [announce_apply]

variable {env settings}

theorem Prepares.logs_construct {stage : Stage} {step : Run World (Except StageError Artifact)}
    {session : Session World} {told : Chronicle}
    (prepares : Prepares env settings stage (opened env stage session) told
      (step (opened env stage session)).1 (step (opened env stage session)).2) :
    session.Logs env settings
      (Ladder.told stage session.logger.nextSpan told (step (opened env stage session)).1)
      (construct env stage step session).2 := by
  let entered : Session World := { session with logger := session.logger.enter "build_stage" }
  have tag : entered.logger.tag? = some session.logger.nextSpan := rfl
  have start : entered.Logs env settings
      (.single ⟨some stage, startNote stage, entered.logger.tag?⟩) (opened env stage session) :=
    entered.logs_logged env settings (startNote stage) (some stage) (by simp)
  have through := start.trans prepares.logs
  have finish := (step (opened env stage session)).2.logs_logged env settings
    (outcomeNote (step (opened env stage session)).1) (some stage) (by simp)
  have whole := through.trans finish
  rw [through.tag?, tag] at whole
  rw [construct_apply]
  exact whole.within (by simp) rfl rfl rfl

theorem Prepares.attributes_fill {stage : Stage} {session later : Session World}
    {told : Chronicle} {result : Except StageError Artifact}
    (prepares : Prepares env settings stage session told result later)
    (fresh : session.cells.built stage = none) {number : Nat}
    (own : session.logger.tag? = some number) (other : Stage) :
    (Ladder.told stage number told result).Attributes settings other (session.cells.built other)
      ((later.cells.fill stage result).built other) := by
  by_cases same : other = stage
  · subst same
    right
    refine ⟨fresh, result, number, by simp [Cells.fill], ?_, ?_⟩
    · simp [Ladder.told, prepares.openings]
    · simp [Ladder.told, prepares.remarks, own, constructionNotes]
  · have unrelated : stage ≠ other := Ne.symm same
    have kept := prepares.attributes other same
    simpa [Chronicle.Attributes, Ladder.told, unrelated, Cells.fill, same] using kept

theorem memo_answers {stage : Stage} {step : Run World (Except StageError Artifact)}
    (prepares : ∀ session : Session World, session.cells.built stage = none →
      ∃ told, Prepares env settings stage session told (step session).1 (step session).2)
    (session : Session World) :
    ∃ told, Answers env settings stage session told
      (memo stage (construct env stage step) session).1
      (memo stage (construct env stage step) session).2 := by
  rw [memo_apply]
  cases found : session.cells.built stage with
  | some result =>
      exact ⟨.empty, (Session.Passes.refl session).tells, found,
        fun fresh => absurd (found.symm.trans fresh) (by simp), fun _ _ => rfl⟩
  | none =>
      obtain ⟨told, prepared⟩ := prepares (opened env stage session) found
      have logs := prepared.logs_construct
      have own : (opened env stage session).logger.tag? = some session.logger.nextSpan :=
        Session.tag?_logged env _ _
      have attributes := prepared.attributes_fill found own
      -- The construction has not touched its own cell, so it is filled here for the first time.
      have empty := (prepared.above stage (Nat.le_refl _)).trans found
      rw [construct_apply] at logs ⊢
      refine ⟨_, ⟨logs.congr rfl, attributes, fun ordered => ?_⟩, by simp [Cells.fill],
        fun _ => ⟨told, rfl⟩, fun higher above => ?_⟩
      · obtain ⟨still, bears⟩ := prepared.ordered ordered
        exact still.fill empty bears
      · have different : higher ≠ stage := by
          rintro rfl
          exact Nat.lt_irrefl _ above
        have kept := prepared.above higher (Nat.le_of_lt above)
        exact (if_neg different).trans kept

variable (env settings)

def sourceOf (requester : Stage) :
    Except FileError Bytes → Except StageError SourceUnit
  | .ok bytes => .ok ⟨"compiler", settings.locations.compilerSource, bytes⟩
  | .error error => .error (.source requester settings.locations.compilerSource error.message)

theorem compilerSource_apply (requester : Stage) (session : Session World) :
    compilerSource env settings requester session =
      match session.cells.source with
      | some result => (result, session)
      | none =>
          let reading := Run.perform env (env.files.read settings.locations.compilerSource) session
          (sourceOf settings requester reading.1,
            { reading.2 with
              cells := reading.2.cells.fillSource (sourceOf settings requester reading.1) }) := by
  show (match session.cells.source with
    | some result => pure result
    | none => do
        let answer ← Run.perform env (env.files.read settings.locations.compilerSource)
        let result := match answer with
          | .ok bytes => .ok ⟨"compiler", settings.locations.compilerSource, bytes⟩
          | .error error =>
              .error (.source requester settings.locations.compilerSource error.message)
        modify fun session => { session with cells := session.cells.fillSource result }
        return result : Run World (Except StageError SourceUnit)) session = _
  cases session.cells.source <;> rfl

theorem compilerSource_passes (requester : Stage) (session : Session World) :
    (∃ told, session.Passes env settings told (compilerSource env settings requester session).2) ∧
      (session.cells.Ordered → ∀ error,
        (compilerSource env settings requester session).1 = .error error →
          error.isDependency = false) := by
  rw [compilerSource_apply]
  cases found : session.cells.source with
  | some result =>
      refine ⟨⟨.empty, .refl session⟩, fun ordered error failed => ?_⟩
      exact ordered.source error (by rw [found, ← failed])
  | none =>
      obtain ⟨told, passes⟩ := session.passes_perform env settings
        (env.files.read settings.locations.compilerSource)
        fun journal world note uttered => .read uttered
      have root : ∀ answer error, sourceOf settings requester answer = .error error →
          error.isDependency = false := by
        intro answer error failed
        cases answer with
        | ok bytes => cases failed
        | error fault =>
            obtain rfl := Except.error.inj failed
            rfl
      refine ⟨⟨told, passes.logs.congr rfl, passes.remarks, passes.openings, passes.built, ?_⟩, ?_⟩
      · exact fun ordered => (passes.ordered ordered).fillSource (root _)
      · exact fun _ => root _

theorem accept_root {stage : Stage} {origin : Origin} {answer : Except CompileError Bytes}
    {error : StageError} (failed : accept stage origin answer = .error error) :
    error.isDependency = false := by
  cases answer with
  | error fault =>
      cases failed
      rfl
  | ok bytes =>
      simp only [accept] at failed
      split at failed <;> cases failed
      rfl

theorem acceptSnapshot_root {path : Path} {answer : Except FileError Bytes} {error : StageError}
    (failed : acceptSnapshot path answer = .error error) : error.isDependency = false := by
  cases answer with
  | error fault =>
      cases failed
      rfl
  | ok bytes =>
      simp only [acceptSnapshot] at failed
      split at failed <;> cases failed
      rfl

def afterSource (stage : Stage) (origin : Origin) (compiler : Compiler World) :
    Except StageError SourceUnit → Run World (Except StageError Artifact)
  | .error error => return .error error
  | .ok source => do return accept stage origin (← Run.perform env (compiler source))

theorem compileSource_passes (stage : Stage) (origin : Origin) {compiler : Compiler World}
    (utters : ∀ unit journal world, ∀ note ∈ (compiler unit journal world).notes,
      env.Utters settings note) (session : Session World) :
    (∃ told, session.Passes env settings told
        (compileSource env settings stage origin compiler session).2) ∧
      (session.cells.Ordered → ∀ error,
        (compileSource env settings stage origin compiler session).1 = .error error →
          error.isDependency = false) := by
  obtain ⟨⟨told, passes⟩, root⟩ := compilerSource_passes env settings stage session
  have unfolded : compileSource env settings stage origin compiler session =
      afterSource env stage origin compiler (compilerSource env settings stage session).1
        (compilerSource env settings stage session).2 := rfl
  rw [unfolded]
  cases answer : (compilerSource env settings stage session).1 with
  | error error =>
      refine ⟨⟨told, passes⟩, fun ordered other failed => root ordered other ?_⟩
      rw [answer, Except.error.inj failed]
  | ok source =>
      obtain ⟨more, compiles⟩ := Session.passes_perform env settings
        (compilerSource env settings stage session).2 (compiler source) (utters source)
      exact ⟨⟨told ++ more, passes.trans compiles⟩, fun _ error failed => accept_root failed⟩

variable {env settings}

theorem bears_first {cells : Cells} {result : Except StageError Artifact}
    (root : ∀ error, result = .error error → error.isDependency = false) :
    cells.Bears .stage0 result where
  first := fun _ => root
  next := fun _ above => absurd rfl (Stage.ne_stage0_of_next above)

theorem prepares_first {session later : Session World} {told : Chronicle}
    {result : Except StageError Artifact} (passes : session.Passes env settings told later)
    (noted : loadingNotes settings .stage0 = [])
    (root : session.cells.Ordered → ∀ error, result = .error error → error.isDependency = false) :
    Prepares env settings .stage0 session told result later where
  logs := passes.logs
  openings := passes.openingsAbout .stage0
  remarks := by rw [noted, passes.remarksAbout, List.map_nil]
  attributes := fun other _ => passes.tells.attributes other
  above := fun higher _ => by rw [passes.built]
  ordered := fun ordered => ⟨passes.ordered ordered, bears_first (root ordered)⟩

theorem constructFirst_prepares (session : Session World) :
    ∃ told, Prepares env settings .stage0 session told
      (constructFirst env settings session).1 (constructFirst env settings session).2 := by
  unfold constructFirst
  split
  next snapshot =>
    let noted := session.logged env
      ⟨.debug, Log.Target.stage, "loading snapshot " ++ settings.locations.snapshot.text⟩
    obtain ⟨told, passes⟩ := noted.passes_perform env settings
      (env.files.read settings.locations.snapshot)
      fun journal world note uttered => .read uttered
    have first := session.logs_logged env settings
      ⟨.debug, Log.Target.stage, "loading snapshot " ++ settings.locations.snapshot.text⟩
      (some .stage0) (by simp)
    refine ⟨_, first.trans passes.logs, ?_, ?_, fun other different => ?_, fun higher _ => ?_,
      fun ordered => ⟨passes.ordered ordered, bears_first fun error => acceptSnapshot_root⟩⟩
    · simp [passes.openingsAbout]
    · simp [passes.remarksAbout, loadingNotes, snapshot]
    · have unrelated : Stage.stage0 ≠ other := Ne.symm different
      left
      refine ⟨congrFun passes.built other, ?_, ?_⟩
      · simp [passes.remarksAbout, unrelated]
      · simp [passes.openingsAbout]
    · exact congrFun passes.built higher
  next host =>
    obtain ⟨⟨told, passes⟩, root⟩ := compileSource_passes env settings .stage0 .host
      (fun unit journal world note uttered => .host uttered) session
    exact ⟨told, prepares_first passes (by simp [loadingNotes, host]) root⟩

theorem index_lt_of_next {below stage : Stage} (above : below.next? = some stage) :
    below < stage :=
  Nat.lt_of_succ_le (Nat.le_of_eq (Stage.index_next above).symm)

theorem Answers.prepares {below stage : Stage} (next : below.next? = some stage)
    {session middle later : Session World} {told more : Chronicle}
    {lower result : Except StageError Artifact}
    (answers : Answers env settings below session told lower middle)
    (passes : middle.Passes env settings more later)
    (follows : middle.cells.Ordered → Cells.Follows stage lower result) :
    Prepares env settings stage session (told ++ more) result later := by
  have higher := index_lt_of_next next
  -- Below, nothing is told of the generation itself, since its cell stays empty there.
  obtain ⟨noRemarks, noOpenings⟩ :=
    (answers.tells.attributes stage).silent (answers.above stage higher)
  have noted : loadingNotes settings stage = [] := by
    have notFirst := Stage.ne_stage0_of_next next
    cases stage <;> first | rfl | exact absurd rfl notFirst
  refine ⟨answers.tells.logs.trans passes.logs, ?_, ?_, fun other _ => ?_, fun above low => ?_,
    fun ordered => ?_⟩
  · simp [noOpenings, passes.openingsAbout]
  · simp [noRemarks, passes.remarksAbout, noted]
  · exact (answers.tells.attributes other).trans (passes.tells.attributes other)
  · rw [passes.built]
    exact answers.above above (Nat.lt_of_lt_of_le higher low)
  · have still := answers.tells.ordered ordered
    refine ⟨passes.ordered still, fun first => absurd first (Stage.ne_stage0_of_next next),
      fun other above => ?_⟩
    obtain rfl : other = below := by
      rw [Stage.next?_eq_some_iff] at above next
      exact Option.some.inj (above.symm.trans next)
    exact ⟨lower, by rw [passes.built, answers.answered], follows still⟩

def afterBelow (env : Environment World Engine Value) (settings : Settings) (below stage : Stage) :
    Except StageError Artifact → Run World (Except StageError Artifact)
  | .error error => return .error (error.blocking stage)
  | .ok artifact =>
      compileSource env settings stage (.compiledBy below) (compilerOf env settings artifact)

theorem constructNext_prepares {below stage : Stage} (next : below.next? = some stage)
    {previous : Run World (Except StageError Artifact)} {session : Session World}
    (answers : ∃ told, Answers env settings below session told (previous session).1
      (previous session).2) :
    ∃ told, Prepares env settings stage session told
      (constructNext env settings below stage previous session).1
      (constructNext env settings below stage previous session).2 := by
  obtain ⟨told, answers⟩ := answers
  have unfolded : constructNext env settings below stage previous session =
      afterBelow env settings below stage (previous session).1 (previous session).2 := rfl
  rw [unfolded]
  cases lower : (previous session).1 with
  | error error =>
      rw [lower] at answers
      exact ⟨_, answers.prepares next (.refl _) fun _ => rfl⟩
  | ok artifact =>
      rw [lower] at answers
      obtain ⟨⟨more, passes⟩, root⟩ := compileSource_passes env settings stage (.compiledBy below)
        (fun unit journal world note uttered => .compiled uttered) (previous session).2
      exact ⟨_, answers.prepares next passes root⟩

variable (env settings)

theorem build_answers (stage : Stage) (session : Session World) :
    ∃ told, Answers env settings stage session told (build env settings stage session).1
      (build env settings stage session).2 := by
  induction stage using Stage.ascend generalizing session with
  | first => exact memo_answers (fun session _ => constructFirst_prepares session) session
  | next below stage above ih =>
      rw [build_next env settings above]
      exact memo_answers (fun session _ => constructNext_prepares above (ih session)) session

end Ladder

end Bootstrap
