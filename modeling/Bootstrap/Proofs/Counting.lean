import Bootstrap.Proofs.Purity

/-!
How often requests ask for the host, for the two files and for engines: once for each generation that
needs them, and twice for each attempt.
-/

namespace Bootstrap

namespace Event

def isHost : Event → Bool
  | .read _ _ => false
  | .host _ => true
  | .engine => false

def isEngine : Event → Bool
  | .read _ _ => false
  | .host _ => false
  | .engine => true

end Event

/-- A request for a generation is a request for those below it. The fixpoint check may ask for two,
though for the second only if the first is built. -/
def Request.wants (settings : Settings) (stage : Stage) : Request → Bool
  | .build asked => decide (stage ≤ asked)
  | .compiler asked => decide (stage ≤ asked)
  | .trials _ => settings.selection.tested.any fun asked => decide (stage ≤ asked)
  | .fixpoint selection =>
      selection.checksFixpoint && selection.fixpointBase.next?.any fun next => decide (stage ≤ next)

def Response.attempts {World : Type} : Response World → List Attempt
  | .build _ => []
  | .compiler _ => []
  | .trials report => report.attempts
  | .fixpoint _ => []

namespace Cells

def hasBuilt (cells : Cells) (stage : Stage) : Bool :=
  (cells.built stage).any Except.isOk

def canCompile (cells : Cells) (stage : Stage) : Bool :=
  stage.previous?.any cells.hasBuilt && cells.source.any Except.isOk

end Cells

theorem Stage.between_zero (upper : Nat) :
    between 0 upper = all.filter fun stage => decide (stage.index < upper) := by
  unfold between
  rcases upper with _ | _ | _ | _ | upper
  · rfl
  · rfl
  · rfl
  · rfl
  · have everything : all.take (upper + 4) = all := List.take_of_length_le (by simp [all])
    rw [everything, List.drop_zero]
    exact (List.filter_eq_self.mpr fun stage _ => by
      have := stage.index_lt
      simp only [decide_eq_true_eq]
      omega).symm

theorem Stage.index_lt_reach_iff (stages : List Stage) (stage : Stage) (height : Nat) :
    stage.index < reach height stages ↔
      stage.index < height ∨ stages.any (fun asked => decide (stage ≤ asked)) = true := by
  induction stages generalizing height with
  | nil => simp [reach]
  | cons first rest ih =>
      have order : stage ≤ first ↔ stage.index ≤ first.index := Iff.rfl
      have rises : stage.index < max height (first.index + 1) ↔
          stage.index < height ∨ stage.index ≤ first.index := by omega
      rw [reach_cons, ih, rises, or_assoc, List.any_cons, Bool.or_eq_true, decide_eq_true_eq, order]

namespace Basis

variable {State Value : Type} (basis : Basis State Value) (reading : Reading)

def canCompile (stage : Stage) : Bool :=
  stage.previous?.any (fun below => (basis.generation reading below).isOk) && reading.source.isOk

def asksHost (stage : Stage) : Bool :=
  decide (stage = .stage0) && !basis.usesSnapshot && reading.source.isOk

theorem countP_compileEvents (counts : Event → Bool)
    (unread : ∀ path answer, counts (.read path answer) = false) (stage : Stage)
    (request : SourceUnit → Event) :
    (basis.compileEvents reading stage request).countP counts =
      match reading.source with
      | .ok bytes => if counts (request (basis.unit bytes)) then 1 else 0
      | .error _ => 0 := by
  have reads : (if stage = basis.firstReader then [Event.read basis.sourcePath reading.source]
      else []).countP counts = 0 := by
    split <;> simp [unread]
  unfold compileEvents
  rw [List.countP_append, reads, Nat.zero_add]
  cases reading.source with
  | error error => rfl
  | ok bytes => exact List.countP_singleton

theorem engines_ownEvents (stage : Stage) :
    (basis.ownEvents reading stage).countP Event.isEngine =
      if basis.canCompile reading stage then 1 else 0 := by
  have compile := basis.countP_compileEvents reading Event.isEngine (fun _ _ => rfl) stage
  unfold ownEvents canCompile
  cases stage.previous? with
  | none =>
      cases basis.usesSnapshot with
      | true => rfl
      | false =>
          simp only [Bool.false_eq_true, if_false, compile]
          cases reading.source <;> rfl
  | some below =>
      cases built : basis.generation reading below with
      | error error => simp [built, Except.isOk, Except.toBool]
      | ok artifact =>
          simp only [compile, built, Option.any_some]
          cases reading.source <;> rfl

theorem hosts_ownEvents (stage : Stage) :
    (basis.ownEvents reading stage).countP Event.isHost =
      if basis.asksHost reading stage then 1 else 0 := by
  have compile := basis.countP_compileEvents reading Event.isHost (fun _ _ => rfl) stage
  rcases stage.first_or_next with rfl | ⟨below, above⟩
  · have lowest : Stage.stage0.previous? = none := rfl
    unfold ownEvents asksHost
    simp only [lowest]
    cases basis.usesSnapshot with
    | true => rfl
    | false =>
        simp only [Bool.false_eq_true, if_false, compile]
        cases reading.source <;> rfl
  · have later := Stage.ne_stage0_of_next above
    cases built : basis.generation reading below with
    | error error => simp [ownEvents_of_blocked above built, asksHost, later]
    | ok artifact =>
        rw [ownEvents_of_compilable above (.of_next above built), compile]
        simp only [asksHost, later, decide_false, Bool.false_and, Bool.false_eq_true, if_false]
        cases reading.source <;> rfl

theorem countP_ownEvents {counts : Event → Bool} {once : Stage → Bool}
    (own : ∀ stage, (basis.ownEvents reading stage).countP counts = if once stage then 1 else 0)
    (stages : List Stage) :
    (stages.flatMap (basis.ownEvents reading)).countP counts = stages.countP once := by
  induction stages with
  | nil => rfl
  | cons stage rest ih =>
      rw [List.flatMap_cons, List.countP_append, own, ih, List.countP_cons]
      omega

theorem engines_eventsBetween (upper : Nat) :
    (basis.eventsBetween reading 0 upper).countP Event.isEngine =
      Stage.all.countP fun stage =>
        decide (stage.index < upper) && basis.canCompile reading stage := by
  rw [eventsBetween, basis.countP_ownEvents reading (basis.engines_ownEvents reading),
    Stage.between_zero, List.countP_filter]
  exact List.countP_congr fun stage _ => by rw [Bool.and_comm]

theorem hosts_eventsBetween (upper : Nat) :
    (basis.eventsBetween reading 0 upper).countP Event.isHost ≤ 1 ∧
      (basis.usesSnapshot = true → (basis.eventsBetween reading 0 upper).countP Event.isHost = 0) := by
  rw [eventsBetween, basis.countP_ownEvents reading (basis.hosts_ownEvents reading)]
  constructor
  · have below : (Stage.between 0 upper).countP (basis.asksHost reading) ≤
        Stage.all.countP (basis.asksHost reading) := by
      rw [Stage.between_zero]
      exact List.filter_sublist.countP_le
    refine Nat.le_trans below (Nat.le_trans (List.countP_mono_left fun stage _ asks => ?_)
      (show Stage.all.countP (fun stage => decide (stage = .stage0)) ≤ 1 by decide))
    simp only [asksHost, Bool.and_eq_true] at asks
    exact asks.1.1
  · intro uses
    exact List.countP_eq_zero.mpr fun stage _ => by simp [asksHost, uses]

theorem countP_askedAll (counts : Event → Bool) (height : Nat) (requests : List Request) :
    (basis.askedAll height reading requests).countP counts =
      (basis.eventsBetween reading height (basis.reachAll height reading requests)).countP counts +
        (requests.flatMap (basis.trialEvents reading)).countP counts := by
  induction requests generalizing height with
  | nil =>
      have unmoved : basis.reachAll height reading [] = height := rfl
      rw [unmoved, eventsBetween_self]
      rfl
  | cons request rest ih =>
      have joined := basis.eventsBetween_append reading (basis.le_reach height reading request)
        (basis.le_reachAll (basis.reach height reading request) reading rest)
      rw [reachAll_cons, ← joined, askedAll, asked, List.flatMap_cons]
      simp only [List.countP_append, ih]
      omega

/-- How high the ladder gets is a matter of what is wanted, except that a generation above one that
cannot be built need not be asked for. -/
theorem index_lt_reach_iff {below stage : Stage} (above : below.next? = some stage)
    {artifact : Artifact} (built : basis.generation reading below = .ok artifact) (height : Nat)
    (request : Request) :
    stage.index < basis.reach height reading request ↔
      stage.index < height ∨ request.wants basis.settings stage = true := by
  have order (other : Stage) : stage ≤ other ↔ stage.index ≤ other.index := Iff.rfl
  have step := Stage.index_next above
  cases request with
  | build asked =>
      simp only [reach, Request.wants, decide_eq_true_eq, order]
      omega
  | compiler asked =>
      simp only [reach, Request.wants, decide_eq_true_eq, order]
      omega
  | trials tests => exact Stage.index_lt_reach_iff _ stage height
  | fixpoint selection =>
      obtain ⟨next, following⟩ := selection.next?_fixpointBase
      have further := Stage.index_next following
      unfold reach Request.wants verifyReach
      cases checks : selection.checksFixpoint with
      | false => simp [checks]
      | true =>
          simp only [checks, following, if_true, Option.any_some, Bool.true_and, decide_eq_true_eq,
            order, compareReach]
          cases standing : basis.generation reading selection.fixpointBase with
          | ok current =>
              dsimp only
              omega
          | error error =>
              have different : below ≠ selection.fixpointBase := by
                rintro rfl
                simp [built] at standing
              have apart : below.index ≠ selection.fixpointBase.index :=
                fun same => different (Stage.index_inj same)
              dsimp only
              omega

theorem index_lt_reachAll_iff {below stage : Stage} (above : below.next? = some stage)
    {artifact : Artifact} (built : basis.generation reading below = .ok artifact) (height : Nat)
    (requests : List Request) :
    stage.index < basis.reachAll height reading requests ↔
      stage.index < height ∨ requests.any (Request.wants basis.settings stage) = true := by
  induction requests generalizing height with
  | nil => simp [reachAll]
  | cons request rest ih =>
      rw [reachAll_cons, ih, basis.index_lt_reach_iff reading above built, or_assoc, List.any_cons,
        Bool.or_eq_true]

variable {World Engine : Type} (env : Environment World Engine Value)

theorem stage_of_mem_attempts {request : Request} {attempt : Attempt}
    (member : attempt ∈ (basis.answer env reading request).attempts) :
    request.Needs basis.settings attempt.stage := by
  cases request with
  | build stage => simp [answer, Response.attempts] at member
  | compiler stage => simp [answer, Response.attempts] at member
  | fixpoint selection => simp [answer, Response.attempts] at member
  | trials tests =>
      obtain ⟨test, _, inside⟩ := List.mem_flatMap.mp member
      obtain ⟨stage, tested, rfl⟩ := List.mem_map.mp inside
      exact tested

theorem engines_attemptEvents {fresh : State} (available : basis.oracle.instantiate = .ok fresh)
    (stage : Stage) :
    (basis.attemptEvents reading stage).countP Event.isEngine =
      if (basis.generation reading stage).isOk then 2 else 0 := by
  unfold attemptEvents Oracle.attemptEvents
  rw [available]
  cases basis.generation reading stage with
  | error error => rfl
  | ok artifact => rfl

theorem engines_trialEvents {fresh : State} (available : basis.oracle.instantiate = .ok fresh)
    (request : Request) :
    (basis.trialEvents reading request).countP Event.isEngine =
      2 * (basis.answer env reading request).attempts.countP
        fun attempt => (basis.generation reading attempt.stage).isOk := by
  have single (test : TestCase) (stages : List Stage) :
      (stages.flatMap (basis.attemptEvents reading)).countP Event.isEngine =
        2 * (basis.block reading stages test).countP
          fun attempt => (basis.generation reading attempt.stage).isOk := by
    unfold block
    induction stages with
    | nil => rfl
    | cons stage rest ih =>
        have named : (basis.attempt reading test stage).stage = stage := rfl
        rw [List.flatMap_cons, List.countP_append, ih, List.map_cons, List.countP_cons, named,
          basis.engines_attemptEvents reading available]
        split <;> omega
  cases request with
  | build stage => rfl
  | compiler stage => rfl
  | fixpoint selection => rfl
  | trials tests =>
      show (tests.flatMap fun _ => _).countP _ = 2 * (tests.flatMap _).countP _
      induction tests with
      | nil => rfl
      | cons test rest ih =>
          rw [List.flatMap_cons, List.flatMap_cons, List.countP_append, List.countP_append, ih,
            single test]
          omega

theorem hosts_trialEvents (request : Request) :
    (basis.trialEvents reading request).countP Event.isHost = 0 := by
  refine List.countP_eq_zero.mpr fun event member => ?_
  cases request with
  | build stage => simp [trialEvents] at member
  | compiler stage => simp [trialEvents] at member
  | fixpoint selection => simp [trialEvents] at member
  | trials tests =>
      obtain ⟨_, _, inside⟩ := List.mem_flatMap.mp member
      obtain ⟨stage, _, own⟩ := List.mem_flatMap.mp inside
      unfold attemptEvents Oracle.attemptEvents at own
      cases built : basis.generation reading stage with
      | error error => simp [built] at own
      | ok artifact =>
          cases begins : basis.oracle.instantiate <;> simp_all [Event.isHost]

theorem hasBuilt_cells {height : Nat} {stage : Stage} (lower : stage.index < height) :
    (basis.cells reading height).hasBuilt stage = (basis.generation reading stage).isOk := by
  simp [Cells.hasBuilt, cells, lower]

theorem canCompile_cells {requests : List Request} {height : Nat}
    (reached : height = basis.reachAll 0 reading requests) (stage : Stage) :
    (requests.any (Request.wants basis.settings stage) &&
        (basis.cells reading height).canCompile stage) =
      (decide (stage.index < height) && basis.canCompile reading stage) := by
  rcases stage.first_or_next with rfl | ⟨below, above⟩
  · simp [Cells.canCompile, canCompile, Stage.previous?]
  · have previous := (Stage.next?_eq_some_iff below stage).mp above
    have step := Stage.index_next above
    unfold Cells.canCompile canCompile
    rw [previous, Option.any_some, Option.any_some]
    cases built : basis.generation reading below with
    | error error =>
        have unbuilt : (basis.cells reading height).hasBuilt below = false := by
          by_cases lower : below.index < height
          · rw [basis.hasBuilt_cells reading lower, built]
            rfl
          · simp [Cells.hasBuilt, cells, lower]
        simp [unbuilt, Except.isOk, Except.toBool]
    | ok artifact =>
        have exactly := basis.index_lt_reachAll_iff reading above built 0 requests
        rw [← reached] at exactly
        by_cases asked : stage.index < height
        · have wanted : requests.any (Request.wants basis.settings stage) = true :=
            (exactly.mp asked).resolve_left (Nat.not_lt_zero _)
          have lower : below.index < height := by omega
          have needs : basis.needsSource reading height = true :=
            needsSource_of_generation built (by omega)
          have source : (basis.cells reading height).source.any Except.isOk = reading.source.isOk := by
            simp only [cells, needs, if_true, Option.any_some]
            cases reading.source <;> rfl
          rw [wanted, basis.hasBuilt_cells reading lower, built, source]
          simp [asked]
        · have unwanted : ¬requests.any (Request.wants basis.settings stage) = true :=
            fun wanted => asked (exactly.mpr (.inr wanted))
          simp [asked, unwanted]

theorem isSome_cells_of_wants {requests : List Request} {height : Nat}
    (reached : height = basis.reachAll 0 reading requests) {stage : Stage}
    (wanted : requests.any (Request.wants basis.settings stage) = true)
    (compilable : (basis.cells reading height).canCompile stage = true) :
    ((basis.cells reading height).built stage).isSome = true := by
  have shown := basis.canCompile_cells reading reached stage
  rw [wanted, compilable, Bool.and_self, eq_comm, Bool.and_eq_true, decide_eq_true_eq] at shown
  simp [cells, shown.1]

theorem countP_attempts_cells {requests : List Request} {height : Nat}
    (reached : height = basis.reachAll 0 reading requests) :
    ((requests.map (basis.answer env reading)).flatMap Response.attempts).countP
        (fun attempt => (basis.cells reading height).hasBuilt attempt.stage) =
      ((requests.map (basis.answer env reading)).flatMap Response.attempts).countP
        fun attempt => (basis.generation reading attempt.stage).isOk := by
  refine List.countP_congr fun attempt member => ?_
  obtain ⟨_, answered, inside⟩ := List.mem_flatMap.mp member
  obtain ⟨request, asked, rfl⟩ := List.mem_map.mp answered
  have needs := basis.stage_of_mem_attempts reading env inside
  have lower := basis.index_lt_reachAll 0 reading asked needs
  rw [basis.hasBuilt_cells reading (reached ▸ lower)]

theorem engines_askedAll {fresh : State} (available : basis.oracle.instantiate = .ok fresh)
    {requests : List Request} {height : Nat}
    (reached : height = basis.reachAll 0 reading requests) :
    (basis.askedAll 0 reading requests).countP Event.isEngine =
      Stage.all.countP (fun stage => requests.any (Request.wants basis.settings stage) &&
        (basis.cells reading height).canCompile stage) +
      2 * ((requests.map (basis.answer env reading)).flatMap Response.attempts).countP
        fun attempt => (basis.cells reading height).hasBuilt attempt.stage := by
  have compiled : (basis.eventsBetween reading 0 height).countP Event.isEngine =
      Stage.all.countP fun stage => requests.any (Request.wants basis.settings stage) &&
        (basis.cells reading height).canCompile stage := by
    rw [engines_eventsBetween]
    exact List.countP_congr fun stage _ => by rw [basis.canCompile_cells reading reached]
  have tried : (requests.flatMap (basis.trialEvents reading)).countP Event.isEngine =
      2 * ((requests.map (basis.answer env reading)).flatMap Response.attempts).countP
        fun attempt => (basis.generation reading attempt.stage).isOk := by
    clear reached compiled
    induction requests with
    | nil => rfl
    | cons request rest ih =>
        rw [List.flatMap_cons, List.map_cons, List.flatMap_cons, List.countP_append,
          List.countP_append, ih, basis.engines_trialEvents reading env available]
        omega
  rw [countP_askedAll, ← reached, compiled, tried, basis.countP_attempts_cells reading env reached]

theorem reads_askedAll_sublist (requests : List Request) :
    (Event.reads (basis.askedAll 0 reading requests)).Sublist
      [.read basis.snapshotPath reading.snapshot, .read basis.sourcePath reading.source] := by
  have low := basis.reachAll_le (Nat.zero_le 4) reading requests
  rw [reads_askedAll, basis.reads_eventsBetween reading low]
  unfold filesRead
  split <;> split <;> simp

theorem hosts_askedAll (requests : List Request) :
    (basis.askedAll 0 reading requests).countP Event.isHost ≤ 1 ∧
      (basis.usesSnapshot = true →
        (basis.askedAll 0 reading requests).countP Event.isHost = 0) := by
  have tried : (requests.flatMap (basis.trialEvents reading)).countP Event.isHost = 0 := by
    refine List.countP_eq_zero.mpr fun event member => ?_
    obtain ⟨request, _, inside⟩ := List.mem_flatMap.mp member
    exact List.countP_eq_zero.mp (basis.hosts_trialEvents reading request) event inside
  rw [countP_askedAll, tried]
  exact basis.hosts_eventsBetween reading _

end Basis

end Bootstrap
