import Bootstrap.Attempt

/-!
The course of an attempt. Engines are watched: every engine gets a number and remembers what has
been bound to it, and every call to one is written down with its answer. Attempts do the same with
watched engines as without, and what is written down shows each step up to the first that fails.
-/

namespace Bootstrap

variable {World Engine Value α β γ δ : Type}

structure Watched (Engine : Type) where
  number : Nat
  inputs : List Bytes
  state : Engine
  deriving DecidableEq

inductive Visit (Engine Value : Type) where
  | instantiate (answer : Except Fault Engine)
  | load (engine : Watched Engine) (module : Bytes) (answer : Except Fault Unit × Engine)
  | invoke (engine : Watched Engine) (exportName : String) (answer : Except Fault Value × Engine)
  | release (engine : Watched Engine)

def Visit.engine? : Visit Engine Value → Option (Watched Engine)
  | .instantiate _ => none
  | .load engine _ _ => some engine
  | .invoke engine _ _ => some engine
  | .release engine => some engine

abbrev Watch (World Engine Value : Type) := World × List (Visit Engine Value)

def Journal.beside (journal : Journal World) : Journal (Watch World Engine Value) :=
  fun note world => (journal note world.1, world.2)

def Act.watching (action : Act World α) (visit : α → Visit Engine Value) (shown : Nat → α → β) :
    Act (Watch World Engine Value) β :=
  fun journal world =>
    let reply := action (fun note inner => (journal note (inner, world.2)).1) world.1
    ⟨shown world.2.length reply.answer, reply.notes, (reply.world, world.2 ++ [visit reply.answer])⟩

def EngineKit.watched (kit : EngineKit World Engine Value) :
    EngineKit (Watch World Engine Value) (Watched Engine) Value where
  -- an engine is known by the number of visits before its own instantiation
  instantiate :=
    kit.instantiate.watching .instantiate fun number answer =>
      answer.map fun state => ⟨number, [], state⟩
  bindInput := fun input engine =>
    { engine with inputs := engine.inputs ++ [input], state := kit.bindInput input engine.state }
  clearOutput := fun engine => { engine with state := kit.clearOutput engine.state }
  output := fun engine => kit.output engine.state
  load := fun module engine =>
    (kit.load module engine.state).watching (.load engine module) fun _ answer =>
      (answer.1, { engine with state := answer.2 })
  invoke := fun exportName engine =>
    (kit.invoke exportName engine.state).watching (.invoke engine exportName) fun _ answer =>
      (answer.1, { engine with state := answer.2 })
  marshal := fun engine value => kit.marshal engine.state value
  release := fun engine =>
    (kit.release engine.state).watching (fun _ => .release engine) fun _ answer => answer

/-- From the visits before on, an action does with the world what another does without the watch;
its own visits and both answers fit. -/
def Act.Shadows (before : List (Visit Engine Value)) (action : Act (Watch World Engine Value) β)
    (bare : Act World α) (Fits : List (Visit Engine Value) → β → α → Prop) : Prop :=
  ∀ (journal : Journal World) (world : World),
    let watched := action journal.beside (world, before)
    let plain := bare journal world
    watched.notes = plain.notes ∧ watched.world.1 = plain.world ∧
      ∃ visits, watched.world.2 = before ++ visits ∧ Fits visits watched.answer plain.answer

namespace Act.Shadows

variable {before : List (Visit Engine Value)} {action : Act (Watch World Engine Value) β}
  {bare : Act World α}

theorem mono {Fits Other : List (Visit Engine Value) → β → α → Prop}
    (shadows : Shadows before action bare Fits)
    (implies : ∀ visits answer plain, Fits visits answer plain → Other visits answer plain) :
    Shadows before action bare Other := by
  intro journal world
  obtain ⟨notes, same, visits, seen, fits⟩ := shadows journal world
  exact ⟨notes, same, visits, seen, implies _ _ _ fits⟩

theorem pure {Fits : List (Visit Engine Value) → β → α → Prop} {answer : β} {plain : α}
    (fits : Fits [] answer plain) :
    Shadows before (Pure.pure answer) (Pure.pure plain : Act World α) Fits :=
  fun _ _ => ⟨rfl, rfl, [], (List.append_nil _).symm, fits⟩

theorem note (level : Log.Level) (target message : String) :
    Shadows before (Act.note level target message)
      (Act.note level target message : Act World Unit)
      fun visits _ _ => visits = ([] : List (Visit Engine Value)) :=
  fun _ _ => ⟨rfl, rfl, [], (List.append_nil _).symm, rfl⟩

theorem bind {Fits : List (Visit Engine Value) → β → α → Prop}
    {Final : List (Visit Engine Value) → δ → γ → Prop}
    {next : β → Act (Watch World Engine Value) δ} {bareNext : α → Act World γ}
    (begins : Shadows before action bare Fits)
    (goes : ∀ visits answer plain, Fits visits answer plain →
      Shadows (before ++ visits) (next answer) (bareNext plain) fun later =>
        Final (visits ++ later)) :
    Shadows before (action >>= next) (bare >>= bareNext) Final := by
  intro journal world
  -- the second part is watched from the visits of the first on
  obtain ⟨notes, same, visits, seen, fits⟩ := begins journal world
  obtain ⟨laterNotes, sameLater, later, seenLater, final⟩ :=
    goes visits _ _ fits journal (bare journal world).world
  have between : (action journal.beside (world, before)).world =
      ((bare journal world).world, before ++ visits) := Prod.ext same seen
  have whole : (action >>= next) journal.beside (world, before) =
      let final := next (action journal.beside (world, before)).answer journal.beside
        ((bare journal world).world, before ++ visits)
      ⟨final.answer, (action journal.beside (world, before)).notes ++ final.notes,
        final.world⟩ := by
    rw [← between]
    rfl
  rw [whole]
  refine ⟨?_, sameLater, visits ++ later, ?_, final⟩
  · exact congr (congrArg (· ++ ·) notes) laterNotes
  · rw [← List.append_assoc]
    exact seenLater

theorem watching (action : Act World α) (visit : α → Visit Engine Value) (shown : Nat → α → β) :
    Shadows before (action.watching visit shown) action fun visits answer plain =>
      visits = [visit plain] ∧ answer = shown before.length plain :=
  fun _ _ => ⟨rfl, rfl, [visit _], rfl, rfl, rfl⟩

end Act.Shadows

namespace EngineKit

variable {before : List (Visit Engine Value)} (kit : EngineKit World Engine Value)

theorem instantiate_shadows :
    Act.Shadows before kit.watched.instantiate kit.instantiate fun visits answer plain =>
      visits = [.instantiate plain] ∧
        answer = plain.map fun state => ⟨before.length, [], state⟩ :=
  Act.Shadows.watching _ _ _

theorem load_shadows (module : Bytes) (engine : Watched Engine) :
    Act.Shadows before (kit.watched.load module engine) (kit.load module engine.state)
      fun visits answer plain =>
        visits = [.load engine module plain] ∧
          answer = (plain.1, { engine with state := plain.2 }) :=
  Act.Shadows.watching _ _ _

theorem invoke_shadows (exportName : String) (engine : Watched Engine) :
    Act.Shadows before (kit.watched.invoke exportName engine) (kit.invoke exportName engine.state)
      fun visits answer plain =>
        visits = [.invoke engine exportName plain] ∧
          answer = (plain.1, { engine with state := plain.2 }) :=
  Act.Shadows.watching _ _ _

theorem release_shadows (engine : Watched Engine) :
    Act.Shadows before (kit.watched.release engine) (kit.release engine.state)
      fun visits _ _ => visits = [Visit.release engine] :=
  (Act.Shadows.watching _ _ _).mono fun _ _ _ fits => fits.1

end EngineKit

namespace Compiler

inductive Collected (kit : EngineKit World Engine Value) (unit : SourceUnit) (left : Engine) :
    Except Fault Value → Except CompileError Bytes → Prop
  | trapped (fault : Fault) :
      Collected kit unit left (.error fault) (.error ⟨unit.name ++ ": " ++ fault.message⟩)
  | silent (value : Value) (empty : kit.output left = []) :
      Collected kit unit left (.ok value) (.error ⟨unit.name ++ ": compiler produced no output"⟩)
  | written (value : Value) (nonempty : kit.output left ≠ []) :
      Collected kit unit left (.ok value) (.ok (kit.output left))

def primed (kit : EngineKit World Engine Value) (number : Nat) (unit : SourceUnit)
    (loaded : Engine) : Watched Engine :=
  ⟨number, [unit.bytes], kit.clearOutput (kit.bindInput unit.bytes loaded)⟩

/-- What becomes of a source, and the visits to the compiler's engine. -/
inductive Course (kit : EngineKit World Engine Value) (number : Nat) (module : Bytes)
    (exportName : String) (unit : SourceUnit) :
    List (Visit Engine Value) → Except CompileError Bytes → Prop
  | noEngine (fault : Fault) :
      Course kit number module exportName unit [.instantiate (.error fault)]
        (.error ⟨fault.message⟩)
  | notLoaded (fresh left : Engine) (fault : Fault) :
      Course kit number module exportName unit
        [.instantiate (.ok fresh), .load ⟨number, [], fresh⟩ module (.error fault, left),
          .release ⟨number, [], left⟩]
        (.error ⟨"compiler module: " ++ fault.message⟩)
  | called (fresh loaded left : Engine) {result : Except Fault Value}
      {compiled : Except CompileError Bytes} (collected : Collected kit unit left result compiled) :
      Course kit number module exportName unit
        [.instantiate (.ok fresh), .load ⟨number, [], fresh⟩ module (.ok (), loaded),
          .invoke (primed kit number unit loaded) exportName (result, left),
          .release { primed kit number unit loaded with state := left }]
        compiled

variable {kit : EngineKit World Engine Value} {before : List (Visit Engine Value)}

theorem collect_collected (unit : SourceUnit) (left : Engine) (result : Except Fault Value) :
    Collected kit unit left result (collect kit unit left result) := by
  cases result with
  | error fault => exact .trapped fault
  | ok value =>
      rw [collect]
      by_cases empty : kit.output left = []
      · simpa [empty] using Collected.silent value empty
      · simpa [empty] using Collected.written value empty

theorem announce_shadows (unit : SourceUnit) (result : Except CompileError Bytes) :
    Act.Shadows before (announce unit result) (announce unit result : Act World Unit)
      fun visits _ _ => visits = ([] : List (Visit Engine Value)) := by
  cases result with
  | error error => exact Act.Shadows.pure rfl
  | ok compiled => exact Act.Shadows.note _ _ _

theorem session_shadows (number : Nat) (module : Bytes) (exportName : String) (unit : SourceUnit)
    (fresh : Engine) :
    Act.Shadows before (session kit.watched module exportName unit ⟨number, [], fresh⟩)
      (session kit module exportName unit fresh) fun visits answer plain =>
        answer.1 = plain.1 ∧ answer.2.state = plain.2 ∧
          Course kit number module exportName unit
            (.instantiate (.ok fresh) :: visits ++ [.release answer.2]) plain.1 := by
  refine (kit.load_shadows module ⟨number, [], fresh⟩).bind ?_
  rintro _ _ ⟨loaded, left⟩ ⟨rfl, rfl⟩
  cases loaded with
  | error fault => exact Act.Shadows.pure ⟨rfl, rfl, .notLoaded fresh left fault⟩
  | ok _ =>
      refine (kit.invoke_shadows exportName _).bind ?_
      rintro _ _ ⟨result, final⟩ ⟨rfl, rfl⟩
      have same : collect kit.watched unit { primed kit number unit left with state := final } result =
          collect kit unit final result := by
        cases result <;> rfl
      exact Act.Shadows.pure
        ⟨same, rfl, .called fresh left final (collect_collected unit final result)⟩

theorem ofModule_shadows (kit : EngineKit World Engine Value) (module : Bytes) (exportName : String)
    (unit : SourceUnit) :
    Act.Shadows before (ofModule kit.watched module exportName unit)
      (ofModule kit module exportName unit) fun visits answer plain =>
        answer = plain ∧ Course kit before.length module exportName unit visits plain := by
  refine kit.instantiate_shadows.bind ?_
  rintro _ _ instantiated ⟨rfl, rfl⟩
  cases instantiated with
  | error fault => exact Act.Shadows.pure ⟨rfl, .noEngine fault⟩
  | ok fresh =>
      refine (session_shadows before.length module exportName unit fresh).bind ?_
      rintro visits ⟨_, engine⟩ ⟨compiled, _⟩ ⟨rfl, rfl, course⟩
      refine (announce_shadows unit _).bind ?_
      rintro _ _ _ rfl
      refine (kit.release_shadows engine).bind ?_
      rintro _ _ _ rfl
      exact Act.Shadows.pure ⟨rfl, by simpa using course⟩

theorem Course.engine_of_visit {number : Nat} {module : Bytes} {exportName : String}
    {unit : SourceUnit} {visits : List (Visit Engine Value)} {compiled : Except CompileError Bytes}
    (course : Course kit number module exportName unit visits compiled) :
    ∀ visit ∈ visits, ∀ engine ∈ visit.engine?,
      engine.number = number ∧ (engine.inputs = [] ∨ engine.inputs = [unit.bytes]) := by
  cases course with
  | noEngine fault => simp [Visit.engine?]
  | notLoaded fresh left fault => simp [Visit.engine?]
  | called fresh loaded left collected => simp [Visit.engine?, primed]

end Compiler

inductive Fault.ReportedAs : Fault → AttemptFailure → Prop
  | instantiate (diagnostic : String) :
      ReportedAs (.instantiate diagnostic) ⟨.load, "cannot instantiate engine: " ++ diagnostic⟩
  | load (diagnostic : String) : ReportedAs (.load diagnostic) ⟨.load, diagnostic⟩
  | trap (diagnostic : String) : ReportedAs (.trap diagnostic) ⟨.trap, diagnostic⟩
  | marshal (diagnostic : String) : ReportedAs (.marshal diagnostic) ⟨.marshal, diagnostic⟩

theorem AttemptFailure.ofFault_reported (fault : Fault) : fault.ReportedAs (ofFault fault) := by
  cases fault with
  | instantiate diagnostic => exact .instantiate diagnostic
  | load diagnostic => exact .load diagnostic
  | trap diagnostic => exact .trap diagnostic
  | marshal diagnostic => exact .marshal diagnostic

namespace Trial

inductive Judged (kit : EngineKit World Engine Value) (toolchain : Toolchain) (left : Engine) :
    Except Fault Value → Outcome → Prop
  | trapped {fault : Fault} {failure : AttemptFailure} (reported : fault.ReportedAs failure) :
      Judged kit toolchain left (.error fault) (.failed failure)
  | notMarshalled {value : Value} {fault : Fault} {failure : AttemptFailure}
      (refused : kit.marshal left value = .error fault) (reported : fault.ReportedAs failure) :
      Judged kit toolchain left (.ok value) (.failed failure)
  | returnedFalse {value : Value} (marshalled : kit.marshal left value = .ok .no) :
      Judged kit toolchain left (.ok value)
        (.failed ⟨.returnedFalse, toolchain.entryExport ++ " returned " ++ toolchain.falseLiteral⟩)
  | passed {value : Value} {verdict : Verdict} (marshalled : kit.marshal left value = .ok verdict)
      (truthy : verdict ≠ .no) :
      Judged kit toolchain left (.ok value) (.passed verdict)

inductive CallCourse (kit : EngineKit World Engine Value) (toolchain : Toolchain)
    (engine : Watched Engine) (compiled : Bytes) : List (Visit Engine Value) → Outcome → Prop
  | notLoaded (left : Engine) {fault : Fault} {failure : AttemptFailure}
      (reported : fault.ReportedAs failure) :
      CallCourse kit toolchain engine compiled
        [.load engine compiled (.error fault, left), .release { engine with state := left }]
        (.failed failure)
  | called (loaded left : Engine) {result : Except Fault Value} {outcome : Outcome}
      (judged : Judged kit toolchain left result outcome) :
      CallCourse kit toolchain engine compiled
        [.load engine compiled (.ok (), loaded),
          .invoke { engine with state := loaded } toolchain.entryExport (result, left),
          .release { engine with state := left }]
        outcome

def supplied (kit : EngineKit World Engine Value) (number : Nat) (test : TestCase)
    (fresh : Engine) : Watched Engine :=
  ⟨number, test.input.toList, withInput kit test.input fresh⟩

/-- What becomes of a test that the compiler in a module compiles, and the visits to the test's
engine and to the compiler's. -/
inductive Course (kit : EngineKit World Engine Value) (module : Bytes) (toolchain : Toolchain)
    (test : TestCase) : List (Visit Engine Value) → Outcome → Prop
  | noEngine {fault : Fault} {failure : AttemptFailure} (reported : fault.ReportedAs failure) :
      Course kit module toolchain test [.instantiate (.error fault)] (.failed failure)
  | notCompiled (fresh : Engine) {visits : List (Visit Engine Value)} {error : CompileError}
      (compiles : Compiler.Course kit 1 module toolchain.compileExport test.source visits
        (.error error)) :
      Course kit module toolchain test
        (.instantiate (.ok fresh) :: visits ++ [.release (supplied kit 0 test fresh)])
        (.failed ⟨.compile, error.diagnostic⟩)
  | compiled (fresh : Engine) {visits later : List (Visit Engine Value)} {compiled : Bytes}
      {outcome : Outcome}
      (compiles : Compiler.Course kit 1 module toolchain.compileExport test.source visits
        (.ok compiled))
      (calls : CallCourse kit toolchain (supplied kit 0 test fresh) compiled later outcome) :
      Course kit module toolchain test (.instantiate (.ok fresh) :: visits ++ later) outcome

variable {kit : EngineKit World Engine Value} {before : List (Visit Engine Value)}

theorem outcome_judged (toolchain : Toolchain) {left : Engine} {value : Value} {verdict : Verdict}
    (marshalled : kit.marshal left value = .ok verdict) :
    Judged kit toolchain left (.ok value) (outcome toolchain (.ok verdict)) := by
  by_cases truthy : verdict = .no
  · subst truthy
    exact .returnedFalse marshalled
  · have passes : outcome toolchain (.ok verdict) = .passed verdict := by
      simp [outcome, Verdict.isTruthy, truthy]
    rw [passes]
    exact .passed marshalled truthy

theorem call_shadows (toolchain : Toolchain) (compiled : Bytes) (engine : Watched Engine) :
    Act.Shadows before (call kit.watched toolchain.entryExport compiled engine)
      (call kit toolchain.entryExport compiled engine.state) fun visits answer plain =>
        answer.1 = plain.1 ∧ answer.2.state = plain.2 ∧
          CallCourse kit toolchain engine compiled (visits ++ [.release answer.2])
            (outcome toolchain plain.1) := by
  refine (kit.load_shadows compiled engine).bind ?_
  rintro _ _ ⟨loaded, left⟩ ⟨rfl, rfl⟩
  cases loaded with
  | error fault =>
      exact Act.Shadows.pure ⟨rfl, rfl, .notLoaded left (AttemptFailure.ofFault_reported fault)⟩
  | ok _ =>
      refine (kit.invoke_shadows toolchain.entryExport _).bind ?_
      rintro _ _ ⟨result, final⟩ ⟨rfl, rfl⟩
      cases result with
      | error fault =>
          exact Act.Shadows.pure
            ⟨rfl, rfl, .called left final (.trapped (AttemptFailure.ofFault_reported fault))⟩
      | ok value =>
          -- marshalling needs no watch: it does nothing but look at the engine
          have same : kit.watched.marshal { engine with state := final } value =
            kit.marshal final value := rfl
          dsimp only
          rw [same]
          cases marshalled : kit.marshal final value with
          | error fault =>
              exact Act.Shadows.pure ⟨rfl, rfl, .called left final
                (.notMarshalled marshalled (AttemptFailure.ofFault_reported fault))⟩
          | ok verdict =>
              exact Act.Shadows.pure
                ⟨rfl, rfl, .called left final (outcome_judged toolchain marshalled)⟩

theorem withInput_watched (test : TestCase) (number : Nat) (fresh : Engine) :
    withInput kit.watched test.input ⟨number, [], fresh⟩ = supplied kit number test fresh := by
  unfold withInput supplied
  cases test.input <;> rfl

theorem compileAndCall_shadows (module : Bytes) (toolchain : Toolchain) (test : TestCase)
    (fresh : Engine) :
    Act.Shadows [.instantiate (.ok fresh)]
      (compileAndCall kit.watched (Compiler.ofModule kit.watched module toolchain.compileExport)
        toolchain.entryExport test (supplied kit 0 test fresh))
      (compileAndCall kit (Compiler.ofModule kit module toolchain.compileExport)
        toolchain.entryExport test (withInput kit test.input fresh)) fun visits answer plain =>
        answer.1 = plain.1 ∧ answer.2.state = plain.2 ∧
          Course kit module toolchain test
            (.instantiate (.ok fresh) :: visits ++ [.release answer.2])
            (outcome toolchain plain.1) := by
  refine (Compiler.ofModule_shadows kit module toolchain.compileExport test.source).bind ?_
  rintro visits compiled _ ⟨rfl, compiles⟩
  cases compiled with
  | error error =>
      refine Act.Shadows.pure ⟨rfl, rfl, ?_⟩
      rw [List.append_nil]
      exact .notCompiled fresh compiles
  | ok compiled =>
      refine (call_shadows toolchain compiled (supplied kit 0 test fresh)).mono ?_
      rintro later answer plain ⟨result, state, calls⟩
      refine ⟨result, state, ?_⟩
      rw [← List.cons_append, List.append_assoc]
      exact .compiled fresh compiles calls

theorem execute_shadows (module : Bytes) (toolchain : Toolchain) (test : TestCase) :
    Act.Shadows []
      (execute kit.watched (Compiler.ofModule kit.watched module toolchain.compileExport)
        toolchain.entryExport test)
      (execute kit (Compiler.ofModule kit module toolchain.compileExport)
        toolchain.entryExport test) fun visits answer plain =>
        answer = plain ∧ Course kit module toolchain test visits (outcome toolchain plain) := by
  refine kit.instantiate_shadows.bind ?_
  rintro _ _ instantiated ⟨rfl, rfl⟩
  cases instantiated with
  | error fault =>
      exact Act.Shadows.pure ⟨rfl, .noEngine (AttemptFailure.ofFault_reported fault)⟩
  | ok fresh =>
      simp only [Except.map, List.length_nil, withInput_watched]
      refine (compileAndCall_shadows module toolchain test fresh).bind ?_
      rintro visits ⟨_, engine⟩ ⟨result, _⟩ ⟨rfl, rfl, course⟩
      refine (kit.release_shadows engine).bind ?_
      rintro _ _ _ rfl
      exact Act.Shadows.pure ⟨rfl, by simpa using course⟩

def against (kit : EngineKit World Engine Value) (module : Bytes) (toolchain : Toolchain)
    (test : TestCase) : Act World Outcome :=
  attempt kit (Compiler.ofModule kit module toolchain.compileExport) toolchain test

theorem against_shadows (kit : EngineKit World Engine Value) (module : Bytes)
    (toolchain : Toolchain) (test : TestCase) :
    Act.Shadows [] (against kit.watched module toolchain test) (against kit module toolchain test)
      fun visits answer plain =>
        answer = plain ∧ Course kit module toolchain test visits plain := by
  refine (execute_shadows module toolchain test).bind ?_
  rintro visits result _ ⟨rfl, course⟩
  exact Act.Shadows.pure ⟨rfl, by simpa using course⟩

theorem Course.not_passed_false {module : Bytes} {toolchain : Toolchain} {test : TestCase}
    {visits : List (Visit Engine Value)} {outcome : Outcome}
    (course : Course kit module toolchain test visits outcome) : outcome ≠ .passed .no := by
  rintro rfl
  cases course with
  | compiled _ _ calls =>
      cases calls with
      | called _ _ judged =>
          cases judged with
          | passed _ truthy => exact truthy rfl

/-- The test's engine, number 0, has been given the test's input and nothing else, and the
compiler's engine, number 1, nothing but the source. -/
def Provides (test : TestCase) (engine : Watched Engine) : Prop :=
  (engine.number = 0 ∧ engine.inputs = test.input.toList) ∨
    (engine.number = 1 ∧ (engine.inputs = [] ∨ engine.inputs = [test.source.bytes]))

theorem CallCourse.engine_of_visit {toolchain : Toolchain} {own : Watched Engine}
    {compiled : Bytes} {visits : List (Visit Engine Value)} {outcome : Outcome}
    (calls : CallCourse kit toolchain own compiled visits outcome) :
    ∀ visit ∈ visits, ∀ engine ∈ visit.engine?,
      engine.number = own.number ∧ engine.inputs = own.inputs := by
  cases calls with
  | notLoaded left reported => simp [Visit.engine?]
  | called loaded left judged => simp [Visit.engine?]

theorem Course.provides {module : Bytes} {toolchain : Toolchain} {test : TestCase}
    {visits : List (Visit Engine Value)} {outcome : Outcome}
    (course : Course kit module toolchain test visits outcome) :
    ∀ visit ∈ visits, ∀ engine ∈ visit.engine?, Provides test engine := by
  cases course with
  | noEngine reported => simp [Visit.engine?]
  | notCompiled fresh compiles =>
      have released : Provides test (supplied kit 0 test fresh) := .inl ⟨rfl, rfl⟩
      simp only [List.cons_append, List.forall_mem_cons, List.forall_mem_append]
      refine ⟨by simp [Visit.engine?], ?_, by simpa [Visit.engine?] using released, by simp⟩
      intro visit member engine shown
      exact .inr (compiles.engine_of_visit visit member engine shown)
  | compiled fresh compiles calls =>
      simp only [List.cons_append, List.forall_mem_cons, List.forall_mem_append]
      refine ⟨by simp [Visit.engine?], ?_, ?_⟩
      · intro visit member engine shown
        exact .inr (compiles.engine_of_visit visit member engine shown)
      · intro visit member engine shown
        exact .inl (calls.engine_of_visit visit member engine shown)

theorem Course.judged {module : Bytes} {toolchain : Toolchain} {test : TestCase}
    {visits : List (Visit Engine Value)} {outcome : Outcome}
    (course : Course kit module toolchain test visits outcome) {engine : Watched Engine}
    {exportName : String} {value : Value} {left : Engine}
    (invoked : .invoke engine exportName (.ok value, left) ∈ visits) (own : engine.number = 0) :
    Judged kit toolchain left (.ok value) outcome := by
  -- the compiler's engine is another one, whatever it has been asked for
  have compilerApart {inner : List (Visit Engine Value)} {compiled : Except CompileError Bytes}
      (compiles : Compiler.Course kit 1 module toolchain.compileExport test.source inner compiled) :
      .invoke engine exportName (.ok value, left) ∉ inner := by
    intro member
    have other := (compiles.engine_of_visit _ member engine rfl).1
    omega
  cases course with
  | noEngine reported => simp at invoked
  | notCompiled fresh compiles => simp [compilerApart compiles] at invoked
  | compiled fresh compiles calls =>
      simp only [List.cons_append, List.mem_cons, List.mem_append, reduceCtorEq, false_or,
        compilerApart compiles] at invoked
      cases calls with
      | notLoaded _ reported => simp at invoked
      | called loaded final judged =>
          simp only [List.mem_cons, reduceCtorEq, false_or, List.not_mem_nil, or_false,
            Visit.invoke.injEq, Prod.mk.injEq] at invoked
          obtain ⟨-, -, rfl, rfl⟩ := invoked
          exact judged

/-- An attempt ends as its first failing step or its value says, and nothing is done after that
step but to give up the engines. Watching it changes nothing. -/
theorem against_course (kit : EngineKit World Engine Value) (module : Bytes) (toolchain : Toolchain)
    (test : TestCase) (journal : Journal World) (world : World) :
    let plain := against kit module toolchain test journal world
    let watched := against kit.watched module toolchain test journal.beside (world, [])
    (watched.answer = plain.answer ∧ watched.notes = plain.notes ∧ watched.world.1 = plain.world) ∧
      Course kit module toolchain test watched.world.2 plain.answer ∧
      plain.answer ≠ .passed .no ∧
      ∀ visit ∈ watched.world.2, ∀ engine ∈ visit.engine?, Provides test engine := by
  intro plain watched
  obtain ⟨notes, same, visits, seen, answer, course⟩ :=
    against_shadows kit module toolchain test journal world
  rw [List.nil_append] at seen
  rw [← seen] at course
  exact ⟨⟨answer, notes, same⟩, course, course.not_passed_false, course.provides⟩

end Trial

end Bootstrap
