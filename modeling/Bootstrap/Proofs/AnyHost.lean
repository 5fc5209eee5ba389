import Bootstrap.Proofs.Requests

/-!
Hosts that answer as they like. A session asks its host once at most, so whatever the answer was,
the session goes as it does with a host that is bound to give that answer.
-/

namespace Bootstrap

section

variable {World Engine State Value α β : Type}

def Environment.hostedBy (env : Environment World Engine Value) (host : Compiler World) :
    Environment World Engine Value :=
  { env with host := host }

def Compiler.bound (host : Compiler World) (answers : SourceUnit → Except CompileError Bytes) :
    Compiler World := fun unit => do
  let _ ← host unit
  return answers unit

def Oracle.hostedBy (oracle : Oracle State Value)
    (answers : SourceUnit → Except CompileError Bytes) : Oracle State Value :=
  { oracle with host := answers }

/-- A host that leaves alone what files and engines answer; of its own answer nothing is known. -/
def Compiler.KeepsApart (Fits : World → Ledger Engine State → Prop) (host : Compiler World) : Prop :=
  ∀ unit (ledger : Ledger Engine State),
    Act.Takes Fits ledger (host unit) fun _ after => after = ledger.add [.host unit]

theorem Deterministic.hostedBy {env : Environment World Engine Value} {oracle : Oracle State Value}
    {MayRead : Path → Except FileError Bytes → Prop} {Fits : World → Ledger Engine State → Prop}
    (deterministic : Deterministic env oracle MayRead Fits) {host : Compiler World}
    (apart : host.KeepsApart Fits) (answers : SourceUnit → Except CompileError Bytes) :
    Deterministic (env.hostedBy (host.bound answers)) (oracle.hostedBy answers) MayRead Fits :=
  { deterministic with
    host := by
      intro unit ledger
      refine (apart unit ledger).bind ?_
      rintro _ _ rfl
      exact Act.Takes.pure ⟨rfl, rfl⟩ }

def Session.Founded (session : Session World) : Prop :=
  (session.cells.built .stage0).isSome = true

/-- Once the first generation is in its cell, a step does the same with every host. Until then it
may ask the host, and if it does, the first generation is in its cell afterwards. -/
def Run.AsksOnce (host : Compiler World) (step : Compiler World → Run World α) : Prop :=
  ∀ session : Session World,
    (session.Founded → (step host session).2.Founded) ∧
      ((∀ answers, step (host.bound answers) session = step host session) ∨
        ¬session.Founded ∧ (step host session).2.Founded ∧
          ∃ answers, step (host.bound answers) session = step host session)

namespace Run.AsksOnce

variable {host : Compiler World}

theorem replay {step : Compiler World → Run World α} (once : AsksOnce host step)
    (session : Session World) :
    ∃ answers, step (host.bound answers) session = step host session := by
  rcases (once session).2 with every | ⟨_, _, some⟩
  · exact ⟨fun _ => .error ⟨""⟩, every _⟩
  · exact some

theorem founded {step : Compiler World → Run World α} (once : AsksOnce host step)
    {session : Session World} (founded : session.Founded) :
    (step host session).2.Founded ∧
      ∀ answers, step (host.bound answers) session = step host session := by
  obtain ⟨keeps, every | ⟨unfounded, _⟩⟩ := once session
  · exact ⟨keeps founded, every⟩
  · exact absurd founded unfounded

theorem unasked {step : Run World α}
    (keeps : ∀ session : Session World, session.Founded → (step session).2.Founded) :
    AsksOnce host fun _ => step :=
  fun session => ⟨keeps session, .inl fun _ => rfl⟩

theorem pure (answer : α) : AsksOnce host fun _ => Pure.pure answer :=
  unasked fun _ founded => founded

theorem bind {first : Compiler World → Run World α} {next : Compiler World → α → Run World β}
    (begins : AsksOnce host first) (goes : ∀ answer, AsksOnce host fun other => next other answer) :
    AsksOnce host fun other => first other >>= next other := by
  intro session
  have chained (other : Compiler World) : (first other >>= next other) session =
      next other (first other session).1 (first other session).2 := rfl
  obtain ⟨keeps, asked⟩ := begins session
  have followed := goes (first host session).1
  dsimp only
  rw [chained host]
  constructor
  · intro founded
    exact (followed.founded (keeps founded)).1
  · rcases asked with every | ⟨unfounded, founded, answers, same⟩
    · rcases (followed (first host session).2).2 with later | ⟨unfounded, founded, answers, same⟩
      · left
        intro answers
        rw [chained, every]
        exact later answers
      · right
        refine ⟨fun founded => unfounded (keeps founded), founded, answers, ?_⟩
        rw [chained, every]
        exact same
    · right
      obtain ⟨still, later⟩ := followed.founded founded
      refine ⟨unfounded, still, answers, ?_⟩
      rw [chained, same]
      exact later answers

theorem look : AsksOnce host fun _ => (get : Run World (Session World)) :=
  unasked fun _ founded => founded

theorem change {update : Session World → Session World}
    (keeps : ∀ session : Session World, session.Founded → (update session).Founded) :
    AsksOnce host fun _ => (modify update : Run World PUnit) :=
  unasked keeps

theorem within {name : String} {step : Compiler World → Run World α} (once : AsksOnce host step) :
    AsksOnce host fun other => Run.within name (step other) := by
  refine bind (change fun _ founded => founded) fun _ => ?_
  refine bind once fun answer => ?_
  exact bind (change fun _ founded => founded) fun _ => pure answer

variable (env : Environment World Engine Value)

theorem say (level : Log.Level) (target message : String) :
    AsksOnce host fun other => Run.say (env.hostedBy other) level target message :=
  show AsksOnce host fun _ => Run.say env level target message from
    unasked fun _ founded => founded

theorem perform (action : Act World α) :
    AsksOnce host fun other => Run.perform (env.hostedBy other) action :=
  show AsksOnce host fun _ => Run.perform env action from unasked fun _ founded => founded

end Run.AsksOnce

variable {host : Compiler World} (env : Environment World Engine Value) (settings : Settings)

namespace Ladder

theorem memo_asksOnce (stage : Stage)
    {construct : Compiler World → Run World (Except StageError Artifact)}
    (once : Run.AsksOnce host construct) :
    Run.AsksOnce host fun other => memo stage (construct other) := by
  refine Run.AsksOnce.bind Run.AsksOnce.look fun session => ?_
  cases session.cells.built stage with
  | some result => exact Run.AsksOnce.pure result
  | none =>
      refine Run.AsksOnce.bind once fun result => ?_
      refine Run.AsksOnce.bind (Run.AsksOnce.change fun session founded => ?_) fun _ =>
        Run.AsksOnce.pure result
      unfold Session.Founded Cells.fill
      dsimp only
      split
      · rfl
      · exact founded

theorem compilerSource_asksOnce (requester : Stage) :
    Run.AsksOnce host fun other => compilerSource (env.hostedBy other) settings requester := by
  refine Run.AsksOnce.bind Run.AsksOnce.look fun session => ?_
  cases session.cells.source with
  | some result => exact Run.AsksOnce.pure result
  | none =>
      refine Run.AsksOnce.bind (Run.AsksOnce.perform env _) fun content => ?_
      refine Run.AsksOnce.bind (Run.AsksOnce.change fun _ founded => founded) fun _ => ?_
      exact Run.AsksOnce.pure _

theorem perform_bound (unit : SourceUnit) (session : Session World)
    {answers : SourceUnit → Except CompileError Bytes}
    (agrees : answers unit = (host unit (session.journal env) session.world).answer) :
    Run.perform (env.hostedBy (host.bound answers)) (host.bound answers unit) session =
      Run.perform env (host unit) session := by
  have replied : host.bound answers unit (session.journal env) session.world =
      host unit (session.journal env) session.world := by
    simp [Compiler.bound, bind, Act.bind, pure, Act.pure, agrees]
  exact congrArg (fun reply : Reply World _ => (reply.answer, session.after reply)) replied

def compileFound (stage : Stage) (origin : Origin) (compiler : Compiler World) :
    Except StageError SourceUnit → Run World (Except StageError Artifact)
  | .error error => return .error error
  | .ok source => do return accept stage origin (← Run.perform env (compiler source))

theorem compileSource_replay (host : Compiler World) (session : Session World) (stage : Stage)
    (origin : Origin) :
    ∃ answers,
      compileSource (env.hostedBy (host.bound answers)) settings stage origin (host.bound answers)
          session =
        compileSource (env.hostedBy host) settings stage origin host session := by
  have chained (other : Compiler World) :
      compileSource (env.hostedBy other) settings stage origin other session =
        (fun found : Except StageError SourceUnit × Session World =>
          compileFound (env.hostedBy other) stage origin other found.1 found.2)
          (compilerSource env settings stage session) := rfl
  simp only [chained]
  generalize compilerSource env settings stage session = found
  obtain ⟨answer, after⟩ := found
  cases answer with
  | error error => exact ⟨fun _ => .error ⟨""⟩, rfl⟩
  | ok source =>
      let given := (host source (after.journal env) after.world).answer
      have same : Run.perform (env.hostedBy (host.bound fun _ => given))
          (host.bound (fun _ => given) source) after = Run.perform env (host source) after :=
        perform_bound env source after rfl
      exact ⟨fun _ => given,
        congrArg (fun reply : Except CompileError Bytes × Session World =>
          (accept stage origin reply.1, reply.2)) same⟩

theorem compileSource_asksOnce (stage : Stage) (origin : Origin) (compiler : Compiler World) :
    Run.AsksOnce host fun other =>
      compileSource (env.hostedBy other) settings stage origin compiler := by
  refine Run.AsksOnce.bind (compilerSource_asksOnce env settings stage) fun found => ?_
  cases found with
  | error error => exact Run.AsksOnce.pure _
  | ok source =>
      exact Run.AsksOnce.bind (Run.AsksOnce.perform env _) fun _ => Run.AsksOnce.pure _

theorem loadSnapshot_asksOnce :
    Run.AsksOnce host fun other => loadSnapshot (env.hostedBy other) settings := by
  refine Run.AsksOnce.bind (Run.AsksOnce.say env _ _ _) fun _ => ?_
  exact Run.AsksOnce.bind (Run.AsksOnce.perform env _) fun _ => Run.AsksOnce.pure _

theorem announce_asksOnce (result : Except StageError Artifact) :
    Run.AsksOnce host fun other => announce (env.hostedBy other) result := by
  cases result <;> exact Run.AsksOnce.say env _ _ _

theorem construct_asksOnce (stage : Stage)
    {step : Compiler World → Run World (Except StageError Artifact)}
    (once : Run.AsksOnce host step) :
    Run.AsksOnce host fun other => construct (env.hostedBy other) stage (step other) := by
  refine Run.AsksOnce.within ?_
  refine Run.AsksOnce.bind (Run.AsksOnce.say env _ _ _) fun _ => ?_
  refine Run.AsksOnce.bind once fun result => ?_
  exact Run.AsksOnce.bind (announce_asksOnce env result) fun _ => Run.AsksOnce.pure result

theorem first_asksOnce :
    Run.AsksOnce host fun other =>
      memo .stage0 (construct (env.hostedBy other) .stage0
        (compileSource (env.hostedBy other) settings .stage0 .host other)) := by
  intro session
  dsimp only
  simp only [memo_apply]
  cases known : session.cells.built .stage0 with
  | some result => exact ⟨fun founded => founded, .inl fun _ => rfl⟩
  | none =>
      let entered : Session World :=
        { session with logger := session.logger.enter "build_stage" }.logged env
          ⟨.info, Log.Target.stage, "building " ++ Stage.stage0.name⟩
      obtain ⟨answers, same⟩ := compileSource_replay env settings host entered .stage0 .host
      let finish (made : Except StageError Artifact × Session World) :
          Except StageError Artifact × Session World :=
        let told := (announce env made.1 made.2).2
        (made.1, { told with logger := told.logger.leave })
      have replayed : construct (env.hostedBy (host.bound answers)) .stage0
          (compileSource (env.hostedBy (host.bound answers)) settings .stage0 .host
            (host.bound answers)) session =
          construct (env.hostedBy host) .stage0
            (compileSource (env.hostedBy host) settings .stage0 .host host) session :=
        congrArg finish same
      have unfounded : ¬session.Founded := by simp [Session.Founded, known]
      refine ⟨fun founded => absurd founded unfounded, .inr ⟨unfounded, ?_, answers, ?_⟩⟩
      · simp [Session.Founded, Cells.fill]
      · rw [replayed]

theorem constructFirst_asksOnce :
    Run.AsksOnce host fun other =>
      memo .stage0 (construct (env.hostedBy other) .stage0
        (constructFirst (env.hostedBy other) settings)) := by
  unfold constructFirst
  cases settings.selection.useSnapshot with
  | false => exact first_asksOnce env settings
  | true =>
      exact memo_asksOnce .stage0 (construct_asksOnce env .stage0 (loadSnapshot_asksOnce env settings))

theorem build_asksOnce (stage : Stage) :
    Run.AsksOnce host fun other => build (env.hostedBy other) settings stage := by
  induction stage using Stage.ascend with
  | first => exact constructFirst_asksOnce env settings
  | next below stage above ih =>
      simp only [build_next _ settings above]
      refine memo_asksOnce stage (construct_asksOnce env stage ?_)
      refine Run.AsksOnce.bind ih fun previous => ?_
      cases previous with
      | error error => exact Run.AsksOnce.pure _
      | ok artifact => exact compileSource_asksOnce env settings stage _ _

theorem compiler_asksOnce (stage : Stage) :
    Run.AsksOnce host fun other => Ladder.compiler (env.hostedBy other) settings stage := by
  refine Run.AsksOnce.bind (build_asksOnce env settings stage) fun built => ?_
  cases built <;> exact Run.AsksOnce.pure _

end Ladder

namespace Trials

theorem prepare_asksOnce (stage : Stage) :
    Run.AsksOnce host fun other => prepare (env.hostedBy other) settings stage := by
  refine Run.AsksOnce.bind (Ladder.compiler_asksOnce env settings stage) fun compiler => ?_
  cases compiler with
  | ok compiler => exact Run.AsksOnce.pure _
  | error error =>
      exact Run.AsksOnce.bind (Run.AsksOnce.change fun _ founded => founded) fun _ =>
        Run.AsksOnce.pure _

theorem prepareAll_asksOnce (stages : List Stage) :
    Run.AsksOnce host fun other => prepareAll (env.hostedBy other) settings stages := by
  induction stages with
  | nil => exact Run.AsksOnce.pure _
  | cons stage rest ih =>
      refine Run.AsksOnce.bind (prepare_asksOnce env settings stage) fun _ => ?_
      exact Run.AsksOnce.bind ih fun _ => Run.AsksOnce.pure _

theorem attempt_asksOnce (test : TestCase) (candidate : Candidate World) :
    Run.AsksOnce host fun other => attempt (env.hostedBy other) settings test candidate := by
  have tried : Run.AsksOnce host fun other =>
      outcome (env.hostedBy other) settings test candidate.2 := by
    cases candidate.2 with
    | ok compiler => exact Run.AsksOnce.perform env _
    | error diagnostic => exact Run.AsksOnce.pure _
  refine Run.AsksOnce.bind tried fun _ => ?_
  refine Run.AsksOnce.bind (Run.AsksOnce.say env _ _ _) fun _ => ?_
  exact Run.AsksOnce.bind (Run.AsksOnce.change fun _ founded => founded) fun _ =>
    Run.AsksOnce.pure _

theorem attemptAll_asksOnce (trials : List (TestCase × Candidate World)) :
    Run.AsksOnce host fun other => attemptAll (env.hostedBy other) settings trials := by
  induction trials with
  | nil => exact Run.AsksOnce.pure _
  | cons trial rest ih =>
      refine Run.AsksOnce.bind (attempt_asksOnce env settings trial.1 trial.2) fun _ => ?_
      exact Run.AsksOnce.bind ih fun _ => Run.AsksOnce.pure _

theorem run_asksOnce (tests : List TestCase) :
    Run.AsksOnce host fun other => run (env.hostedBy other) settings tests := by
  refine Run.AsksOnce.within ?_
  refine Run.AsksOnce.bind (Run.AsksOnce.say env _ _ _) fun _ => ?_
  refine Run.AsksOnce.bind (prepareAll_asksOnce env settings _) fun candidates => ?_
  refine Run.AsksOnce.bind (attemptAll_asksOnce env settings _) fun _ => ?_
  exact Run.AsksOnce.bind (Run.AsksOnce.say env _ _ _) fun _ => Run.AsksOnce.pure _

end Trials

namespace Fixpoint

theorem judge_asksOnce (base next : Stage) (current again : Artifact) :
    Run.AsksOnce host fun other => judge (env.hostedBy other) base next current again := by
  unfold judge
  cases Mismatch.compare? base next current.bytes again.bytes with
  | some mismatch =>
      exact Run.AsksOnce.bind (Run.AsksOnce.say env _ _ _) fun _ => Run.AsksOnce.pure _
  | none => exact Run.AsksOnce.bind (Run.AsksOnce.say env _ _ _) fun _ => Run.AsksOnce.pure _

theorem compare_asksOnce (base next : Stage) :
    Run.AsksOnce host fun other => compare (env.hostedBy other) settings base next := by
  refine Run.AsksOnce.bind (Run.AsksOnce.say env _ _ _) fun _ => ?_
  refine Run.AsksOnce.bind (Ladder.build_asksOnce env settings base) fun current => ?_
  cases current with
  | error error => exact Run.AsksOnce.pure _
  | ok current =>
      refine Run.AsksOnce.bind (Ladder.build_asksOnce env settings next) fun again => ?_
      cases again with
      | error error => exact Run.AsksOnce.pure _
      | ok again => exact judge_asksOnce env base next current again

theorem verify_asksOnce (selection : Selection) :
    Run.AsksOnce host fun other => verify (env.hostedBy other) settings selection := by
  unfold verify
  cases selection.checksFixpoint with
  | false => exact Run.AsksOnce.pure _
  | true =>
      cases selection.fixpointBase.next? with
      | none => exact Run.AsksOnce.pure _
      | some next => exact Run.AsksOnce.within (compare_asksOnce env settings _ next)

end Fixpoint

theorem Request.serve_asksOnce (request : Request) :
    Run.AsksOnce host fun other => request.serve (env.hostedBy other) settings := by
  cases request with
  | build stage =>
      exact Run.AsksOnce.bind (Ladder.build_asksOnce env settings stage) fun _ =>
        Run.AsksOnce.pure _
  | compiler stage =>
      exact Run.AsksOnce.bind (Ladder.compiler_asksOnce env settings stage) fun _ =>
        Run.AsksOnce.pure _
  | trials tests =>
      exact Run.AsksOnce.bind (Trials.run_asksOnce env settings tests) fun _ =>
        Run.AsksOnce.pure _
  | fixpoint selection =>
      exact Run.AsksOnce.bind (Fixpoint.verify_asksOnce env settings selection) fun _ =>
        Run.AsksOnce.pure _

/-- In a whole session the host is asked once at most, whatever is requested and how often. -/
theorem Call.serveAll_asksOnce (calls : List (Call World)) :
    Run.AsksOnce host fun other => serveAll (env.hostedBy other) settings calls := by
  induction calls with
  | nil => exact Run.AsksOnce.pure _
  | cons call rest ih =>
      cases call with
      | request asked =>
          refine Run.AsksOnce.bind (asked.serve_asksOnce env settings) fun _ => ?_
          exact Run.AsksOnce.bind ih fun _ => Run.AsksOnce.pure _
      | meanwhile change =>
          exact Run.AsksOnce.bind (Run.AsksOnce.change fun _ founded => founded) fun _ => ih

end

end Bootstrap
