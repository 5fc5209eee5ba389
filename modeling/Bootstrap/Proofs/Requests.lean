import Bootstrap.Proofs.FixpointCheck
import Bootstrap.Proofs.TestRun

/-!
Requests to one session in any order, while the world goes on around it: the answers are those of
plain recursion over one reading, and neither file is read twice.
-/

namespace Bootstrap

inductive Request where
  | build (stage : Stage)
  | compiler (stage : Stage)
  | trials (tests : List TestCase)
  | fixpoint (selection : Selection)

inductive Response (World : Type) where
  | build (result : Except StageError Artifact)
  | compiler (result : Except StageError (Compiler World))
  | trials (report : TrialReport)
  | fixpoint (result : Except RunError Convergence)

/-- The generations that a request cannot do without. -/
def Request.Needs (settings : Settings) (stage : Stage) : Request → Prop
  | .build asked => asked = stage
  | .compiler asked => asked = stage
  | .trials _ => stage ∈ settings.selection.tested
  | .fixpoint selection => selection.checksFixpoint = true ∧ stage = selection.fixpointBase

inductive Call (World : Type) where
  | request (request : Request)
  | meanwhile (change : World → World)

section

variable {World Engine Value : Type}

def Request.serve (env : Environment World Engine Value) (settings : Settings) :
    Request → Run World (Response World)
  | .build stage => do return .build (← Ladder.build env settings stage)
  | .compiler stage => do return .compiler (← Ladder.compiler env settings stage)
  | .trials tests => do return .trials (← Trials.run env settings tests)
  | .fixpoint selection => do return .fixpoint (← Fixpoint.verify env settings selection)

namespace Call

def request? : Call World → Option Request
  | .request asked => some asked
  | .meanwhile _ => none

def requests (calls : List (Call World)) : List Request :=
  calls.filterMap request?

def serveAll (env : Environment World Engine Value) (settings : Settings) :
    List (Call World) → Run World (List (Response World))
  | [] => return []
  | .request asked :: rest => do
      let first ← asked.serve env settings
      let others ← serveAll env settings rest
      return first :: others
  | .meanwhile change :: rest => do
      modify fun session => { session with world := change session.world }
      serveAll env settings rest

end Call

end

namespace Event

def isRead : Event → Bool
  | .read _ _ => true
  | .host _ => false
  | .engine => false

def reads (events : List Event) : List Event :=
  events.filter isRead

@[simp] theorem reads_append (first second : List Event) :
    reads (first ++ second) = reads first ++ reads second :=
  List.filter_append first second

end Event

namespace Basis

variable {World Engine State Value : Type}

def answer (basis : Basis State Value) (env : Environment World Engine Value) (reading : Reading) :
    Request → Response World
  | .build stage => .build (basis.generation reading stage)
  | .compiler stage => .compiler (Ladder.compilerFor env basis reading stage)
  | .trials tests => .trials (basis.report reading tests)
  | .fixpoint selection => .fixpoint (basis.verify reading selection)

def reach (basis : Basis State Value) (height : Nat) (reading : Reading) : Request → Nat
  | .build stage => max height (stage.index + 1)
  | .compiler stage => max height (stage.index + 1)
  | .trials _ => Stage.reach height basis.settings.selection.tested
  | .fixpoint selection => basis.verifyReach height selection reading

theorem le_reach (basis : Basis State Value) (height : Nat) (reading : Reading)
    (request : Request) : height ≤ basis.reach height reading request := by
  cases request with
  | build stage => exact Nat.le_max_left _ _
  | compiler stage => exact Nat.le_max_left _ _
  | trials tests => exact Stage.le_reach _ _
  | fixpoint selection => exact basis.le_verifyReach height selection reading

theorem reach_le (basis : Basis State Value) {height : Nat} (low : height ≤ 4)
    (reading : Reading) (request : Request) : basis.reach height reading request ≤ 4 := by
  cases request with
  | build stage =>
      have := stage.index_lt
      simp only [reach]
      omega
  | compiler stage =>
      have := stage.index_lt
      simp only [reach]
      omega
  | trials tests => exact Stage.reach_le _ low
  | fixpoint selection => exact basis.verifyReach_le low selection reading

theorem index_lt_reach (basis : Basis State Value) (height : Nat) (reading : Reading)
    {request : Request} {stage : Stage} (needs : request.Needs basis.settings stage) :
    stage.index < basis.reach height reading request := by
  cases request with
  | build asked =>
      obtain rfl : asked = stage := needs
      simp only [reach]
      omega
  | compiler asked =>
      obtain rfl : asked = stage := needs
      simp only [reach]
      omega
  | trials tests => exact Stage.index_lt_reach needs height
  | fixpoint selection =>
      obtain ⟨checks, rfl⟩ := needs
      obtain ⟨next, above⟩ := selection.next?_fixpointBase
      simp only [reach, verifyReach, checks, above, if_true, compareReach]
      split <;> omega

theorem reach_of_agree {basis : Basis State Value} {reading other : Reading} {height : Nat}
    {request : Request} (agree : basis.Agree (basis.reach height reading request) reading other) :
    basis.reach height other request = basis.reach height reading request := by
  cases request with
  | build stage => rfl
  | compiler stage => rfl
  | trials tests => rfl
  | fixpoint selection => exact verifyReach_of_agree agree

theorem answer_of_agree {basis : Basis State Value} (env : Environment World Engine Value)
    {reading other : Reading} {height : Nat} {request : Request}
    (agree : basis.Agree (basis.reach height reading request) reading other) :
    basis.answer env other request = basis.answer env reading request := by
  cases request with
  | build stage =>
      simp only [reach] at agree
      simp [answer, generation_of_agree agree stage (by omega)]
  | compiler stage =>
      simp only [reach] at agree
      simp [answer, Ladder.compilerFor, generation_of_agree agree stage (by omega)]
  | trials tests =>
      simp only [reach] at agree
      simp [answer, report_of_agree agree
        (fun _ member => Stage.index_lt_reach member height)]
  | fixpoint selection =>
      simp only [reach] at agree
      simp [answer, verify_of_agree agree]

def told (basis : Basis State Value) (reading : Reading) : Request → List Entry
  | .build _ => []
  | .compiler _ => []
  | .trials tests => basis.reportEntries reading tests
  | .fixpoint _ => []

theorem told_of_agree {basis : Basis State Value} {reading other : Reading} {height : Nat}
    {request : Request} (agree : basis.Agree (basis.reach height reading request) reading other) :
    basis.told other request = basis.told reading request := by
  cases request with
  | build stage => rfl
  | compiler stage => rfl
  | trials tests =>
      have same := report_of_agree agree (fun _ member => Stage.index_lt_reach member height) tests
      exact congrArg (fun report : TrialReport =>
        report.buildFailures.map buildFailedEntry ++ report.attempts.map Entry.attempt) same
  | fixpoint selection => rfl

def trialEvents (basis : Basis State Value) (reading : Reading) : Request → List Event
  | .build _ => []
  | .compiler _ => []
  | .trials tests =>
      tests.flatMap fun _ =>
        basis.settings.selection.tested.flatMap (basis.attemptEvents reading)
  | .fixpoint _ => []

theorem trialEvents_of_agree {basis : Basis State Value} {reading other : Reading} {height : Nat}
    {request : Request} (agree : basis.Agree (basis.reach height reading request) reading other) :
    basis.trialEvents other request = basis.trialEvents reading request := by
  cases request with
  | build stage => rfl
  | compiler stage => rfl
  | trials tests =>
      have same : basis.settings.selection.tested.flatMap (basis.attemptEvents other) =
          basis.settings.selection.tested.flatMap (basis.attemptEvents reading) := by
        rw [List.flatMap_def, List.flatMap_def]
        congr 1
        exact List.map_congr_left fun stage member => by
          simp only [attemptEvents,
            generation_of_agree agree stage (Stage.index_lt_reach member height)]
      simp only [trialEvents, same]
  | fixpoint selection => rfl

def asked (basis : Basis State Value) (height : Nat) (reading : Reading) (request : Request) :
    List Event :=
  basis.eventsBetween reading height (basis.reach height reading request) ++
    basis.trialEvents reading request

theorem asked_of_agree {basis : Basis State Value} {reading other : Reading} {height : Nat}
    {request : Request} (agree : basis.Agree (basis.reach height reading request) reading other) :
    basis.asked height other request = basis.asked height reading request := by
  rw [asked, asked, reach_of_agree agree, eventsBetween_of_agree agree, trialEvents_of_agree agree]

theorem reads_attemptEvents (basis : Basis State Value) (reading : Reading) (stage : Stage) :
    Event.reads (basis.attemptEvents reading stage) = [] := by
  unfold attemptEvents Oracle.attemptEvents
  cases basis.generation reading stage with
  | error error => rfl
  | ok artifact => cases basis.oracle.instantiate <;> rfl

theorem reads_trialEvents (basis : Basis State Value) (reading : Reading) (request : Request) :
    Event.reads (basis.trialEvents reading request) = [] := by
  have attempts (stage : Stage) : List.filter Event.isRead (basis.attemptEvents reading stage) = [] :=
    basis.reads_attemptEvents reading stage
  cases request with
  | build stage => rfl
  | compiler stage => rfl
  | trials tests => simp [trialEvents, Event.reads, List.filter_flatMap, attempts]
  | fixpoint selection => rfl

/-! Several requests, each begun where the ones before it have left the ladder. -/

def reachAll (basis : Basis State Value) (height : Nat) (reading : Reading)
    (requests : List Request) : Nat :=
  requests.foldl (fun reached request => basis.reach reached reading request) height

def askedAll (basis : Basis State Value) (height : Nat) (reading : Reading) :
    List Request → List Event
  | [] => []
  | request :: rest =>
      basis.asked height reading request ++
        basis.askedAll (basis.reach height reading request) reading rest

theorem reachAll_cons (basis : Basis State Value) (height : Nat) (reading : Reading)
    (request : Request) (rest : List Request) :
    basis.reachAll height reading (request :: rest) =
      basis.reachAll (basis.reach height reading request) reading rest :=
  rfl

theorem le_reachAll (basis : Basis State Value) (height : Nat) (reading : Reading)
    (requests : List Request) : height ≤ basis.reachAll height reading requests := by
  induction requests generalizing height with
  | nil => exact Nat.le_refl height
  | cons request rest ih => exact Nat.le_trans (basis.le_reach height reading request) (ih _)

theorem reachAll_le (basis : Basis State Value) {height : Nat} (low : height ≤ 4)
    (reading : Reading) (requests : List Request) :
    basis.reachAll height reading requests ≤ 4 := by
  induction requests generalizing height with
  | nil => exact low
  | cons request rest ih => exact ih (basis.reach_le low reading request)

theorem index_lt_reachAll (basis : Basis State Value) (height : Nat) (reading : Reading)
    {requests : List Request} {request : Request} (member : request ∈ requests) {stage : Stage}
    (needs : request.Needs basis.settings stage) :
    stage.index < basis.reachAll height reading requests := by
  induction requests generalizing height with
  | nil => simp at member
  | cons first rest ih =>
      rw [reachAll_cons]
      rcases List.mem_cons.mp member with rfl | later
      · exact Nat.lt_of_lt_of_le (basis.index_lt_reach height reading needs)
          (basis.le_reachAll _ reading rest)
      · exact ih _ later

theorem reads_askedAll (basis : Basis State Value) (height : Nat) (reading : Reading)
    (requests : List Request) :
    Event.reads (basis.askedAll height reading requests) =
      Event.reads (basis.eventsBetween reading height
        (basis.reachAll height reading requests)) := by
  induction requests generalizing height with
  | nil => exact congrArg Event.reads (basis.eventsBetween_self reading height).symm
  | cons request rest ih =>
      have joined := basis.eventsBetween_append reading (basis.le_reach height reading request)
        (basis.le_reachAll (basis.reach height reading request) reading rest)
      rw [reachAll_cons, ← joined, askedAll, Event.reads_append, ih, asked, Event.reads_append,
        reads_trialEvents, List.append_nil, Event.reads_append]

end Basis

section

variable {World Engine State Value : Type} {env : Environment World Engine Value}
  {Fits : World → Ledger Engine State → Prop} {basis : Basis State Value}
  {MayRead : Path → Except FileError Bytes → Prop}

def Call.Keeps (Fits : World → Ledger Engine State → Prop) : Call World → Prop
  | .request _ => True
  | .meanwhile change => ∀ world ledger, Fits world ledger → Fits (change world) ledger

theorem Request.serve_leads (deterministic : Deterministic env basis.oracle MayRead Fits)
    (request : Request) (reading : Reading) (height : Nat) :
    basis.Leads MayRead Fits reading height (fun other => basis.reach height other request)
      (request.serve env basis.settings) (fun other => basis.answer env other request)
      (fun other => basis.told other request) (fun other => basis.asked height other request) := by
  cases request with
  | build stage =>
      unfold Basis.asked Basis.trialEvents
      simp only [List.append_nil]
      exact (Ladder.build_leads deterministic stage reading height).map Response.build
  | compiler stage =>
      unfold Basis.asked Basis.trialEvents
      simp only [List.append_nil]
      exact (Ladder.compiler_leads deterministic stage reading height).map Response.compiler
  | trials tests => exact (Trials.run_leads deterministic tests reading height).map Response.trials
  | fixpoint selection =>
      unfold Basis.asked Basis.trialEvents
      simp only [List.append_nil]
      exact (Fixpoint.verify_leads deterministic selection reading height).map Response.fixpoint

/-- However requests follow on one another, they are answered from one reading. -/
theorem Call.serveAll_leads (deterministic : Deterministic env basis.oracle MayRead Fits)
    (calls : List (Call World)) (keeps : ∀ call ∈ calls, call.Keeps Fits) (reading : Reading)
    (height : Nat) :
    basis.Leads MayRead Fits reading height
      (fun other => basis.reachAll height other (requests calls))
      (serveAll env basis.settings calls)
      (fun other => (requests calls).map (basis.answer env other))
      (fun other => (requests calls).flatMap (basis.told other))
      (fun other => basis.askedAll height other (requests calls)) := by
  induction calls generalizing reading height with
  | nil => exact Basis.Leads.pure fun _ => []
  | cons call rest ih =>
      have others : ∀ call ∈ rest, call.Keeps Fits :=
        fun call member => keeps call (List.mem_cons_of_mem _ member)
      intro entries events possible
      cases call with
      | meanwhile change =>
          have kept := keeps (.meanwhile change) List.mem_cons_self
          refine Run.Takes.bind (Run.Takes.change _ fun session shows =>
            ⟨shows.1, shows.2.1, kept _ _ shows.2.2⟩) ?_
          rintro _ _ rfl
          exact ih others reading height entries events possible
      | request asked =>
          refine (asked.serve_leads deterministic reading height entries events possible).bind ?_
          rintro _ _ ⟨other, agree, may, rfl, rfl⟩
          refine (ih others other _ _ _ may).bind ?_
          rintro _ _ ⟨another, later, possibly, rfl, rfl⟩
          have asks : requests (.request asked :: rest) = asked :: requests rest := rfl
          refine Run.Takes.pure ⟨another,
            agree.trans (later.mono (basis.le_reach height other asked)), possibly, ?_, ?_⟩
          · dsimp only
            rw [asks, List.map_cons, Basis.answer_of_agree env later]
          · dsimp only
            rw [asks, Basis.reachAll_cons, Basis.askedAll, List.flatMap_cons,
              Basis.reach_of_agree later, Basis.told_of_agree later, Basis.asked_of_agree later,
              List.append_assoc, List.append_assoc]

theorem Call.serveAll_takes (deterministic : Deterministic env basis.oracle MayRead Fits)
    (calls : List (Call World)) (keeps : ∀ call ∈ calls, call.Keeps Fits) {reading : Reading}
    (possible : basis.Possible MayRead reading) {height : Nat} (low : height ≤ 4)
    {account : Account} (cells : account.cells = basis.cells reading height) :
    Run.Takes Fits account (serveAll env basis.settings calls) fun answers after =>
      ∃ other upper, height ≤ upper ∧ upper ≤ 4 ∧ basis.Agree height reading other ∧
        basis.Possible MayRead other ∧
        answers = (requests calls).map (basis.answer env other) ∧
        (∀ request ∈ requests calls, ∀ stage, request.Needs basis.settings stage →
          stage.index < upper) ∧
        after.cells = basis.cells other upper ∧
        Event.reads after.events = Event.reads account.events ++
          Event.reads (basis.eventsBetween other height upper) := by
  obtain ⟨_, entries, events⟩ := account
  subst cells
  refine (serveAll_leads deterministic calls keeps reading height entries events possible).mono ?_
  rintro _ _ ⟨other, agree, may, rfl, rfl⟩
  refine ⟨other, _, basis.le_reachAll height other _, basis.reachAll_le low other _, agree, may, rfl,
    fun request member stage needs => basis.index_lt_reachAll height other member needs, rfl, ?_⟩
  rw [Event.reads_append, basis.reads_askedAll]

theorem Call.serveAll_steady {content : Path → Except FileError Bytes}
    (deterministic : Deterministic env basis.oracle (Basis.Steady content) Fits)
    (calls : List (Call World)) (keeps : ∀ call ∈ calls, call.Keeps Fits) {world : World}
    (logger : Log.Logger) (fits : Fits world (.opened [])) :
    (serveAll env basis.settings calls (.start world logger)).1 =
        (requests calls).map (basis.answer env (basis.readingOf content)) ∧
      ∃ height entries events, (serveAll env basis.settings calls (.start world logger)).2.Shows Fits
        ⟨basis.cells (basis.readingOf content) height, entries, events⟩ := by
  have shows : (Session.start world logger).Shows Fits ⟨.empty, [], []⟩ := ⟨rfl, rfl, fits⟩
  obtain ⟨⟨_, entries, events⟩, ⟨reading, height, _, _, _, may, answered, _, rfl, _⟩, shown⟩ :=
    serveAll_takes deterministic calls keeps (basis.possible_readingOf content) (Nat.zero_le 4)
      (basis.cells_zero _).symm _ shows
  obtain rfl := Basis.eq_readingOf may
  exact ⟨answered, height, entries, events, shown⟩

end

end Bootstrap
