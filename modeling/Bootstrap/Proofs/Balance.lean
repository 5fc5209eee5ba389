import Bootstrap.Proofs.Attribution
import Bootstrap.Proofs.ReportStream
import Bootstrap.Proofs.Requests

/-!
Whatever is asked of a session, its spans are afterwards as they were, and the constructions of
generations are told of as they should be: in spans of their own, and over the whole life of the
cells with one error at most.
-/

namespace Bootstrap

variable {World Engine Value α β : Type}

/-- A program leaves the log balanced, wherever it starts; something may be known of its answer. -/
def Run.Balances (env : Environment World Engine Value) (settings : Settings) (Gives : α → Prop)
    (step : Run World α) : Prop :=
  ∀ session, (∃ told, session.Tells env settings told (step session).2) ∧ Gives (step session).1

namespace Run.Balances

variable {env : Environment World Engine Value} {settings : Settings}

theorem pure {Gives : α → Prop} {answer : α} (gives : Gives answer) :
    Balances env settings Gives (Pure.pure answer) :=
  fun session => ⟨⟨.empty, (Session.Passes.refl session).tells⟩, gives⟩

theorem bind {Gives : α → Prop} {Final : β → Prop} {first : Run World α} {next : α → Run World β}
    (begins : Balances env settings Gives first)
    (goes : ∀ answer, Gives answer → Balances env settings Final (next answer)) :
    Balances env settings Final (first >>= next) := by
  intro session
  obtain ⟨⟨told, tells⟩, gives⟩ := begins session
  obtain ⟨⟨more, goesOn⟩, final⟩ := goes _ gives (first session).2
  exact ⟨⟨told ++ more, tells.trans goesOn⟩, final⟩

theorem push (entry : Entry) : 
    Balances env settings (fun _ => True) (Run.push entry : Run World Unit) :=
  fun _ => ⟨⟨.empty, Session.Passes.tells ⟨.of_same rfl, by simp [Chronicle.empty],
    by simp [Chronicle.empty], rfl, id⟩⟩, trivial⟩

theorem say (level : Log.Level) {target : String} (apart : target ≠ Log.Target.stage)
    (message : String) : Balances env settings (fun _ => True) (Run.say env level target message) := by
  intro session
  have logs := session.logs_logged env settings ⟨level, target, message⟩ none fun _ => .inl apart
  exact ⟨⟨_, Session.Passes.tells ⟨logs, by simp [Chronicle.single], by simp [Chronicle.single],
    rfl, id⟩⟩, trivial⟩

theorem perform {action : Act World α}
    (utters : ∀ journal world, ∀ note ∈ (action journal world).notes, env.Utters settings note) :
    Balances env settings (fun _ => True) (Run.perform env action) := by
  intro session
  obtain ⟨told, passes⟩ := session.passes_perform env settings action utters
  exact ⟨⟨told, passes.tells⟩, trivial⟩

theorem within {name : String} (apart : name ≠ "build_stage") {step : Run World α}
    {Gives : α → Prop} (balances : Balances env settings Gives step) :
    Balances env settings Gives (Run.within name step) := by
  intro session
  let entered : Session World := { session with logger := session.logger.enter name }
  obtain ⟨⟨told, inside⟩, gives⟩ := balances entered
  have logs : session.Logs env settings
      (told.inside ⟨none, ⟨session.logger.nextSpan, name⟩⟩) (Run.within name step session).2 :=
    inside.logs.within (fun _ => apart) rfl rfl rfl
  refine ⟨⟨_, logs, fun stage => ?_, inside.ordered⟩, gives⟩
  have kept : told.Attributes settings stage (session.cells.built stage)
      ((Run.within name step session).2.cells.built stage) := inside.attributes stage
  simpa [Chronicle.Attributes] using kept

end Run.Balances

section

variable (env : Environment World Engine Value) (settings : Settings)

namespace Ladder

theorem build_balances (stage : Stage) :
    Run.Balances env settings (fun _ => True) (build env settings stage) := by
  intro session
  obtain ⟨told, answers⟩ := build_answers env settings stage session
  exact ⟨⟨told, answers.tells⟩, trivial⟩

theorem compiler_balances (stage : Stage) :
    Run.Balances env settings
      (fun answer => ∀ compiler, answer = .ok compiler →
        ∃ artifact, compiler = compilerOf env settings artifact)
      (Ladder.compiler env settings stage) := by
  refine (build_balances env settings stage).bind fun built _ => ?_
  cases built with
  | error error => exact .pure (by simp)
  | ok artifact =>
      refine .pure fun compiler same => ?_
      exact ⟨artifact, (Except.ok.inj same).symm⟩

end Ladder

namespace Trials

def Candidate.Built (candidate : Candidate World) : Prop :=
  ∀ compiler, candidate.2 = .ok compiler →
    ∃ artifact, compiler = Ladder.compilerOf env settings artifact

theorem prepare_balances (stage : Stage) :
    Run.Balances env settings (Candidate.Built env settings) (prepare env settings stage) := by
  refine (Ladder.compiler_balances env settings stage).bind fun built knows => ?_
  cases built with
  | error error =>
      exact (Run.Balances.push _).bind fun _ _ => .pure (by simp [Candidate.Built])
  | ok compiler =>
      refine .pure fun other same => ?_
      obtain rfl := Except.ok.inj same
      exact knows _ rfl

theorem prepareAll_balances (stages : List Stage) :
    Run.Balances env settings (fun candidates => ∀ candidate ∈ candidates,
      Candidate.Built env settings candidate) (prepareAll env settings stages) := by
  induction stages with
  | nil => exact .pure (by simp)
  | cons stage rest ih =>
      refine (prepare_balances env settings stage).bind fun first known => ?_
      exact ih.bind fun others knows => .pure (List.forall_mem_cons.mpr ⟨known, knows⟩)

variable {env settings}

theorem attempt_balances (test : TestCase) {candidate : Candidate World}
    (known : Candidate.Built env settings candidate) :
    Run.Balances env settings (fun _ => True) (attempt env settings test candidate) := by
  have tried : Run.Balances env settings (fun _ => True) (outcome env settings test candidate.2) := by
    cases built : candidate.2 with
    | error diagnostic => exact .pure trivial
    | ok compiler =>
        obtain ⟨artifact, rfl⟩ := known compiler built
        exact Run.Balances.perform fun _ _ _ uttered => .attempt uttered
  refine tried.bind fun _ _ => ?_
  refine (Run.Balances.say _ (by decide) _).bind fun _ _ => ?_
  exact (Run.Balances.push _).bind fun _ _ => .pure trivial

theorem attemptAll_balances {trials : List (TestCase × Candidate World)}
    (known : ∀ trial ∈ trials, Candidate.Built env settings trial.2) :
    Run.Balances env settings (fun _ => True) (attemptAll env settings trials) := by
  induction trials with
  | nil => exact .pure trivial
  | cons trial rest ih =>
      obtain ⟨first, others⟩ := List.forall_mem_cons.mp known
      refine (attempt_balances trial.1 first).bind fun _ _ => ?_
      exact (ih others).bind fun _ _ => .pure trivial

variable (env settings)

theorem run_balances (tests : List TestCase) :
    Run.Balances env settings (fun _ => True) (run env settings tests) := by
  refine Run.Balances.within (by decide) ((Run.Balances.say _ (by decide) _).bind fun _ _ => ?_)
  refine (prepareAll_balances env settings _).bind fun candidates knows => ?_
  have known : ∀ trial ∈ pairs tests candidates, Candidate.Built env settings trial.2 := by
    intro trial member
    obtain ⟨test, _, paired⟩ := List.mem_flatMap.mp member
    obtain ⟨candidate, listed, rfl⟩ := List.mem_map.mp paired
    exact knows candidate listed
  refine (attemptAll_balances known).bind fun _ _ => ?_
  exact (Run.Balances.say _ (by decide) _).bind fun _ _ => .pure trivial

end Trials

namespace Fixpoint

theorem judge_balances (base next : Stage) (current again : Artifact) :
    Run.Balances env settings (fun _ => True) (judge env base next current again) := by
  unfold judge
  cases Mismatch.compare? base next current.bytes again.bytes <;>
    exact (Run.Balances.say _ (by decide) _).bind fun _ _ => .pure trivial

theorem compare_balances (base next : Stage) :
    Run.Balances env settings (fun _ => True) (compare env settings base next) := by
  refine (Run.Balances.say _ (by decide) _).bind fun _ _ => ?_
  refine (Ladder.build_balances env settings base).bind fun lower _ => ?_
  cases lower with
  | error error => exact .pure trivial
  | ok current =>
      refine (Ladder.build_balances env settings next).bind fun upper _ => ?_
      cases upper with
      | error error => exact .pure trivial
      | ok again => exact judge_balances env settings base next current again

theorem verify_balances (selection : Selection) :
    Run.Balances env settings (fun _ => True) (verify env settings selection) := by
  unfold verify
  split
  · split
    · exact .pure trivial
    · exact Run.Balances.within (by decide) (compare_balances env settings _ _)
  · exact .pure trivial

end Fixpoint

namespace Verification

theorem tellFilter_balances (filter : Option String) (count : Nat) :
    Run.Balances env settings (fun _ => True) (tellFilter env filter count) := by
  cases filter with
  | none => exact .pure trivial
  | some text => exact Run.Balances.say _ (by decide) _

theorem opening_balances (filter : Option String) (tests : List TestCase) :
    Run.Balances env settings (fun _ => True) (opening env settings filter tests) := by
  refine (tellFilter_balances env settings filter _).bind fun _ _ => ?_
  dsimp only
  split
  · exact (Run.Balances.say _ (by decide) _).bind fun _ _ => Run.Balances.push _
  · exact Run.Balances.push _

theorem closing_balances (trials : TrialReport) (checked : Except RunError Convergence) :
    Run.Balances env settings (fun _ => True) (closing env trials checked) := by
  cases checked with
  | error error => exact .pure trivial
  | ok proof =>
      refine (Run.Balances.push _).bind fun _ _ => ?_
      exact (Run.Balances.say _ (by decide) _).bind fun _ _ => .pure trivial

theorem trying_balances (filter : Option String) (tests : List TestCase) :
    Run.Balances env settings (fun _ => True) (trying env settings filter tests) := by
  refine (opening_balances env settings filter tests).bind fun _ _ => ?_
  refine (Trials.run_balances env settings tests).bind fun trials _ => ?_
  refine (Fixpoint.verify_balances env settings _).bind fun checked _ => ?_
  exact closing_balances env settings trials checked

theorem run_balances (filter : Option String) :
    Run.Balances env settings (fun _ => True) (run env settings filter) := by
  refine (Run.Balances.say _ (by decide) _).bind fun _ _ => ?_
  refine (Run.Balances.perform fun _ _ _ uttered => .discover uttered).bind fun found _ => ?_
  cases found with
  | error error => exact .pure trivial
  | crash => exact .pure trivial
  | ok cases =>
      dsimp only
      rw [trying_eq]
      exact (trying_balances env settings filter _).bind fun _ _ => .pure trivial

end Verification

theorem Request.serve_balances (asked : Request) :
    Run.Balances env settings (fun _ => True) (asked.serve env settings) := by
  cases asked with
  | build stage => exact (Ladder.build_balances env settings stage).bind fun _ _ => .pure trivial
  | compiler stage => exact (Ladder.compiler_balances env settings stage).bind fun _ _ => .pure trivial
  | trials tests => exact (Trials.run_balances env settings tests).bind fun _ _ => .pure trivial
  | fixpoint selection =>
      exact (Fixpoint.verify_balances env settings selection).bind fun _ _ => .pure trivial

end

end Bootstrap
