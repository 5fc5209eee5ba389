import Bootstrap.Proofs.Oracle
import Bootstrap.Session

/-!
Environments whose host and engines answer like an oracle. What has been asked of them is kept in a
ledger beside the world, so that a step over the world is described by what it does to the ledger.
-/

namespace Bootstrap

inductive Event where
  | read (path : Path) (answer : Except FileError Bytes)
  | host (unit : SourceUnit)
  | engine

/-- What has been asked for so far, and the engines in use with their states, the latest first. -/
structure Ledger (Engine State : Type) where
  events : List Event
  live : List (Engine × State)

namespace Ledger

variable {Engine State : Type}

def opened (events : List Event) : Ledger Engine State :=
  ⟨events, []⟩

def add (ledger : Ledger Engine State) (events : List Event) : Ledger Engine State :=
  { ledger with events := ledger.events ++ events }

def hold (ledger : Ledger Engine State) (engine : Engine) (state : State) : Ledger Engine State :=
  { ledger with live := (engine, state) :: ledger.live }

@[simp] theorem add_nil (ledger : Ledger Engine State) : ledger.add [] = ledger := by
  simp [add]

@[simp] theorem add_add (ledger : Ledger Engine State) (first second : List Event) :
    (ledger.add first).add second = ledger.add (first ++ second) := by
  simp [add]

end Ledger

section

variable {World Engine State Value α β : Type}

def Journal.Respects (journal : Journal World) (Fits : World → Ledger Engine State → Prop) : Prop :=
  ∀ note world ledger, Fits world ledger → Fits (journal note world) ledger

/-- Begun in a world that fits a ledger, an action ends with an answer and in a world that fits
another ledger, as `outcome` says, whatever is open for logging. -/
def Act.Takes (Fits : World → Ledger Engine State → Prop) (ledger : Ledger Engine State)
    (action : Act World α) (outcome : α → Ledger Engine State → Prop) : Prop :=
  ∀ journal, Journal.Respects journal Fits → ∀ world, Fits world ledger →
    ∃ after, outcome (action journal world).answer after ∧ Fits (action journal world).world after

namespace Act.Takes

variable {Fits : World → Ledger Engine State → Prop} {ledger : Ledger Engine State}

theorem pure {answer : α} {outcome : α → Ledger Engine State → Prop}
    (holds : outcome answer ledger) : Takes Fits ledger (Pure.pure answer) outcome :=
  fun _ _ _ fits => ⟨ledger, holds, fits⟩

theorem bind {first : Act World α} {next : α → Act World β}
    {middle : α → Ledger Engine State → Prop} {outcome : β → Ledger Engine State → Prop}
    (begins : Takes Fits ledger first middle)
    (goes : ∀ answer after, middle answer after → Takes Fits after (next answer) outcome) :
    Takes Fits ledger (first >>= next) outcome := by
  intro journal respects world fits
  obtain ⟨after, held, fitsAfter⟩ := begins journal respects world fits
  exact goes _ after held journal respects _ fitsAfter

theorem mono {action : Act World α} {strong weak : α → Ledger Engine State → Prop}
    (takes : Takes Fits ledger action strong)
    (weaker : ∀ answer after, strong answer after → weak answer after) :
    Takes Fits ledger action weak := by
  intro journal respects world fits
  obtain ⟨after, held, fitsAfter⟩ := takes journal respects world fits
  exact ⟨after, weaker _ after held, fitsAfter⟩

theorem within {action : Act World α} {outcome : α → Ledger Engine State → Prop}
    (takes : ∀ world, Fits world ledger → Takes Fits ledger action outcome) :
    Takes Fits ledger action outcome :=
  fun journal respects world fits => takes world fits journal respects world fits

theorem recast {other : Ledger Engine State} {action : Act World α}
    {outcome : α → Ledger Engine State → Prop}
    (fitting : ∀ world, Fits world ledger → Fits world other)
    (takes : Takes Fits other action outcome) : Takes Fits ledger action outcome :=
  fun journal respects world fits => takes journal respects world (fitting world fits)

theorem alone {action : Act World α} {outcome : α → Ledger Engine State → Prop}
    (takes : Takes Fits ledger action outcome) {world : World} (fits : Fits world ledger) :
    ∃ after, outcome (action.alone world).answer after ∧ Fits (action.alone world).world after :=
  takes (fun _ unchanged => unchanged) (fun _ _ _ same => same) world fits

theorem note (level : Log.Level) (target message : String) :
    Takes Fits ledger (Act.note level target message) fun _ after => after = ledger :=
  fun _ respects _ fits => ⟨ledger, rfl, respects _ _ _ fits⟩

end Act.Takes

def Environment.LogsApart (env : Environment World Engine Value)
    (Fits : World → Ledger Engine State → Prop) : Prop :=
  ∀ handle line world ledger, Fits world ledger → Fits (env.append handle line world) ledger

/-- Host and engines answer like the oracle in every world that fits a ledger, whatever else such a
world is like; of reading a file no more is known than `MayRead` says. -/
structure Deterministic (env : Environment World Engine Value) (oracle : Oracle State Value)
    (MayRead : Path → Except FileError Bytes → Prop) (Fits : World → Ledger Engine State → Prop) :
    Prop where
  logsApart : env.LogsApart Fits
  read : ∀ path (ledger : Ledger Engine State),
    Act.Takes Fits ledger (env.files.read path) fun answer after =>
      MayRead path answer ∧ after = ledger.add [.read path answer]
  host : ∀ unit (ledger : Ledger Engine State),
    Act.Takes Fits ledger (env.host unit) fun answer after =>
      answer = oracle.host unit ∧ after = ledger.add [.host unit]
  instantiate : ∀ ledger : Ledger Engine State,
    Act.Takes Fits ledger env.engines.instantiate fun answer after =>
      match oracle.instantiate with
      | .error fault => answer = .error fault ∧ after = ledger.add [.engine]
      | .ok state =>
          ∃ engine, answer = .ok engine ∧ after = (ledger.add [.engine]).hold engine state
  bindInput : ∀ input engine state world (ledger : Ledger Engine State),
    Fits world (ledger.hold engine state) →
    Fits world (ledger.hold (env.engines.bindInput input engine) (oracle.bindInput input state))
  clearOutput : ∀ engine state world (ledger : Ledger Engine State),
    Fits world (ledger.hold engine state) →
    Fits world (ledger.hold (env.engines.clearOutput engine) (oracle.clearOutput state))
  output : ∀ engine state world (ledger : Ledger Engine State),
    Fits world (ledger.hold engine state) →
    env.engines.output engine = oracle.output state
  marshal : ∀ engine state value world (ledger : Ledger Engine State),
    Fits world (ledger.hold engine state) →
    env.engines.marshal engine value = oracle.marshal state value
  load : ∀ module engine state (ledger : Ledger Engine State),
    Act.Takes Fits (ledger.hold engine state) (env.engines.load module engine) fun answer after =>
      answer.1 = (oracle.load module state).1 ∧
        after = ledger.hold answer.2 (oracle.load module state).2
  invoke : ∀ exportName engine state (ledger : Ledger Engine State),
    Act.Takes Fits (ledger.hold engine state) (env.engines.invoke exportName engine)
      fun answer after =>
        answer.1 = (oracle.invoke exportName state).1 ∧
          after = ledger.hold answer.2 (oracle.invoke exportName state).2
  release : ∀ engine state (ledger : Ledger Engine State),
    Act.Takes Fits (ledger.hold engine state) (env.engines.release engine) fun _ after =>
      after = ledger

def Oracle.attemptEvents (oracle : Oracle State Value) : List Event :=
  match oracle.instantiate with
  | .error _ => [.engine]
  | .ok _ => [.engine, .engine]

namespace Deterministic

variable {env : Environment World Engine Value} {oracle : Oracle State Value}
  {MayRead : Path → Except FileError Bytes → Prop} {Fits : World → Ledger Engine State → Prop}

theorem announce (unit : SourceUnit) (result : Except CompileError Bytes)
    (ledger : Ledger Engine State) :
    Act.Takes Fits ledger (Compiler.announce unit result) fun _ after => after = ledger := by
  cases result with
  | error error => exact Act.Takes.pure rfl
  | ok compiled => exact Act.Takes.note _ _ _

theorem session (deterministic : Deterministic env oracle MayRead Fits) (module : Bytes)
    (exportName : String) (unit : SourceUnit) (engine : Engine) (state : State)
    (ledger : Ledger Engine State) :
    Act.Takes Fits (ledger.hold engine state)
      (Compiler.session env.engines module exportName unit engine) fun answer after =>
        answer.1 = oracle.session module exportName unit state ∧
          ∃ finished, after = ledger.hold answer.2 finished := by
  refine (deterministic.load module engine state ledger).bind ?_
  rintro ⟨loadedAnswer, loaded⟩ _ ⟨loadedEq, rfl⟩
  unfold Oracle.session
  generalize oracle.load module state = loading at loadedEq ⊢
  obtain ⟨_, loadedState⟩ := loading
  subst loadedEq
  cases loadedAnswer with
  | error fault => exact Act.Takes.pure ⟨rfl, loadedState, rfl⟩
  | ok _ =>
      dsimp only
      refine Act.Takes.recast (fun world fits => deterministic.clearOutput _ _ world ledger
        (deterministic.bindInput unit.bytes _ _ world ledger fits)) ?_
      refine (deterministic.invoke exportName _ _ ledger).bind ?_
      rintro ⟨invokedAnswer, invoked⟩ _ ⟨invokedEq, rfl⟩
      generalize oracle.invoke exportName
        (oracle.clearOutput (oracle.bindInput unit.bytes loadedState)) = invoking at invokedEq ⊢
      obtain ⟨_, finished⟩ := invoking
      subst invokedEq
      refine Act.Takes.within fun world fits => Act.Takes.pure ⟨?_, finished, rfl⟩
      cases invokedAnswer with
      | error fault => rfl
      | ok value =>
          have written := deterministic.output _ _ world ledger fits
          simp only [Compiler.collect, written]

theorem compile (deterministic : Deterministic env oracle MayRead Fits) (module : Bytes)
    (exportName : String) (unit : SourceUnit) (ledger : Ledger Engine State) :
    Act.Takes Fits ledger (Compiler.ofModule env.engines module exportName unit)
      fun answer after =>
        answer = oracle.compile module exportName unit ∧ after = ledger.add [.engine] := by
  refine (deterministic.instantiate ledger).bind ?_
  intro answer after started
  unfold Oracle.compile
  cases begins : oracle.instantiate with
  | error fault =>
      simp only [begins] at started
      obtain ⟨rfl, rfl⟩ := started
      exact Act.Takes.pure ⟨rfl, rfl⟩
  | ok fresh =>
      simp only [begins] at started
      obtain ⟨engine, rfl, rfl⟩ := started
      refine (deterministic.session module exportName unit engine fresh _).bind ?_
      rintro ⟨result, used⟩ _ ⟨resultEq, finished, rfl⟩
      refine (announce unit result _).bind ?_
      rintro _ _ rfl
      refine (deterministic.release used finished _).bind ?_
      rintro _ _ rfl
      exact Act.Takes.pure ⟨resultEq, rfl⟩

theorem call (deterministic : Deterministic env oracle MayRead Fits) (entryExport : String)
    (module : Bytes) (engine : Engine) (state : State) (ledger : Ledger Engine State) :
    Act.Takes Fits (ledger.hold engine state) (Trial.call env.engines entryExport module engine)
      fun answer after =>
        answer.1 = oracle.call entryExport module state ∧
          ∃ finished, after = ledger.hold answer.2 finished := by
  refine (deterministic.load module engine state ledger).bind ?_
  rintro ⟨loadedAnswer, loaded⟩ _ ⟨loadedEq, rfl⟩
  unfold Oracle.call
  generalize oracle.load module state = loading at loadedEq ⊢
  obtain ⟨_, loadedState⟩ := loading
  subst loadedEq
  cases loadedAnswer with
  | error fault => exact Act.Takes.pure ⟨rfl, loadedState, rfl⟩
  | ok _ =>
      dsimp only
      refine (deterministic.invoke entryExport _ _ ledger).bind ?_
      rintro ⟨invokedAnswer, invoked⟩ _ ⟨invokedEq, rfl⟩
      generalize oracle.invoke entryExport loadedState = invoking at invokedEq ⊢
      obtain ⟨_, finished⟩ := invoking
      subst invokedEq
      cases invokedAnswer with
      | error fault => exact Act.Takes.pure ⟨rfl, finished, rfl⟩
      | ok value =>
          refine Act.Takes.within fun world fits => ?_
          have marshalled := deterministic.marshal _ _ value world ledger fits
          dsimp only at marshalled ⊢
          rw [marshalled]
          cases oracle.marshal finished value with
          | error fault => exact Act.Takes.pure ⟨rfl, finished, rfl⟩
          | ok verdict => exact Act.Takes.pure ⟨rfl, finished, rfl⟩

theorem withInput (deterministic : Deterministic env oracle MayRead Fits) (input : Option Bytes)
    (engine : Engine) (state : State) (ledger : Ledger Engine State) (world : World)
    (fits : Fits world (ledger.hold engine state)) :
    Fits world
      (ledger.hold (Trial.withInput env.engines input engine) (oracle.withInput input state)) := by
  cases input with
  | none => exact fits
  | some bytes => exact deterministic.bindInput bytes engine state world ledger fits

theorem compileAndCall (deterministic : Deterministic env oracle MayRead Fits)
    (toolchain : Toolchain) (module : Bytes) (test : TestCase) (engine : Engine) (state : State)
    (ledger : Ledger Engine State) :
    Act.Takes Fits (ledger.hold engine state)
      (Trial.compileAndCall env.engines
        (Compiler.ofModule env.engines module toolchain.compileExport) toolchain.entryExport test
        engine) fun answer after =>
        (answer.1 = match oracle.compile module toolchain.compileExport test.source with
          | .error error => .error (.ofCompileError error)
          | .ok compiled => oracle.call toolchain.entryExport compiled state) ∧
        ∃ finished, after = (ledger.add [.engine]).hold answer.2 finished := by
  refine (deterministic.compile module toolchain.compileExport test.source _).bind ?_
  rintro _ _ ⟨rfl, rfl⟩
  cases oracle.compile module toolchain.compileExport test.source with
  | error error => exact Act.Takes.pure ⟨rfl, state, rfl⟩
  | ok compiled =>
      exact deterministic.call toolchain.entryExport compiled engine state (ledger.add [.engine])

theorem execute (deterministic : Deterministic env oracle MayRead Fits) (toolchain : Toolchain)
    (module : Bytes) (test : TestCase) (ledger : Ledger Engine State) :
    Act.Takes Fits ledger
      (Trial.execute env.engines
        (Compiler.ofModule env.engines module toolchain.compileExport) toolchain.entryExport test)
      fun answer after =>
        answer = oracle.execute toolchain module test ∧
          after = ledger.add oracle.attemptEvents := by
  refine (deterministic.instantiate ledger).bind ?_
  intro answer after started
  unfold Oracle.execute Oracle.attemptEvents
  cases begins : oracle.instantiate with
  | error fault =>
      simp only [begins] at started
      obtain ⟨rfl, rfl⟩ := started
      exact Act.Takes.pure ⟨rfl, rfl⟩
  | ok fresh =>
      simp only [begins] at started
      obtain ⟨engine, rfl, rfl⟩ := started
      refine Act.Takes.recast
        (fun world => deterministic.withInput test.input engine fresh _ world) ?_
      refine (deterministic.compileAndCall toolchain module test _ _ _).bind ?_
      rintro ⟨result, used⟩ _ ⟨resultEq, finished, rfl⟩
      refine (deterministic.release used finished _).bind ?_
      rintro _ _ rfl
      exact Act.Takes.pure ⟨resultEq, by simp⟩

theorem attempt
    (deterministic : Deterministic env oracle MayRead Fits) (toolchain : Toolchain)
    (module : Bytes) (test : TestCase) (ledger : Ledger Engine State) :
    Act.Takes Fits ledger
      (Trial.attempt env.engines
        (Compiler.ofModule env.engines module toolchain.compileExport) toolchain test)
      fun answer after =>
        answer = oracle.outcome toolchain module test ∧
          after = ledger.add oracle.attemptEvents := by
  unfold Oracle.outcome
  refine (deterministic.execute toolchain module test ledger).bind ?_
  rintro _ _ ⟨rfl, rfl⟩
  exact Act.Takes.pure ⟨rfl, rfl⟩

end Deterministic

end

end Bootstrap
