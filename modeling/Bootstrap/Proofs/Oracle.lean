import Bootstrap.Attempt

/-!
Collaborators as plain functions: what a host and engines answer whose answers depend on what they
are asked and on nothing else, and what compiling and trying a test come to with them.
-/

namespace Bootstrap

/-- The answers of a host and of engines. An engine is in a state of its own, which calls change. -/
structure Oracle (State Value : Type) where
  host : SourceUnit → Except CompileError Bytes
  instantiate : Except Fault State
  bindInput : Bytes → State → State
  clearOutput : State → State
  output : State → Bytes
  load : Bytes → State → Except Fault Unit × State
  invoke : String → State → Except Fault Value × State
  marshal : State → Value → Except Fault Verdict

namespace Oracle

variable {State Value : Type}

def session (oracle : Oracle State Value) (module : Bytes) (exportName : String)
    (unit : SourceUnit) (state : State) : Except CompileError Bytes :=
  match oracle.load module state with
  | (.error fault, _) => .error ⟨"compiler module: " ++ fault.message⟩
  | (.ok (), loaded) =>
      match oracle.invoke exportName
          (oracle.clearOutput (oracle.bindInput unit.bytes loaded)) with
      | (.error fault, _) => .error ⟨unit.name ++ ": " ++ fault.message⟩
      | (.ok _, finished) =>
          if (oracle.output finished).isEmpty then
            .error ⟨unit.name ++ ": compiler produced no output"⟩
          else .ok (oracle.output finished)

def compile (oracle : Oracle State Value) (module : Bytes) (exportName : String)
    (unit : SourceUnit) : Except CompileError Bytes :=
  match oracle.instantiate with
  | .error fault => .error ⟨fault.message⟩
  | .ok fresh => oracle.session module exportName unit fresh

def withInput (oracle : Oracle State Value) (input : Option Bytes) (state : State) : State :=
  match input with
  | some bytes => oracle.bindInput bytes state
  | none => state

def call (oracle : Oracle State Value) (entryExport : String) (module : Bytes) (state : State) :
    Except AttemptFailure Verdict :=
  match oracle.load module state with
  | (.error fault, _) => .error (.ofFault fault)
  | (.ok (), loaded) =>
      match oracle.invoke entryExport loaded with
      | (.error fault, _) => .error (.ofFault fault)
      | (.ok value, finished) =>
          match oracle.marshal finished value with
          | .error fault => .error (.ofFault fault)
          | .ok verdict => .ok verdict

def execute (oracle : Oracle State Value) (toolchain : Toolchain) (module : Bytes)
    (test : TestCase) : Except AttemptFailure Verdict :=
  match oracle.instantiate with
  | .error fault => .error (.ofFault fault)
  | .ok fresh =>
      match oracle.compile module toolchain.compileExport test.source with
      | .error error => .error (.ofCompileError error)
      | .ok compiled =>
          oracle.call toolchain.entryExport compiled (oracle.withInput test.input fresh)

def outcome (oracle : Oracle State Value) (toolchain : Toolchain) (module : Bytes)
    (test : TestCase) : Outcome :=
  Trial.outcome toolchain (oracle.execute toolchain module test)

/-- A test passes under a compiler module: it compiles, loads into a fresh engine that has its
input, and its entry export returns something that can be marshalled and is not false. -/
def Passes (oracle : Oracle State Value) (toolchain : Toolchain) (module : Bytes)
    (test : TestCase) : Prop :=
  ∃ fresh compiled loaded value finished verdict,
    oracle.instantiate = .ok fresh ∧
    oracle.compile module toolchain.compileExport test.source = .ok compiled ∧
    oracle.load compiled (oracle.withInput test.input fresh) = (.ok (), loaded) ∧
    oracle.invoke toolchain.entryExport loaded = (.ok value, finished) ∧
    oracle.marshal finished value = .ok verdict ∧
    verdict ≠ .no

theorem call_eq_ok_iff (oracle : Oracle State Value) (entryExport : String) (module : Bytes)
    (state : State) (verdict : Verdict) :
    oracle.call entryExport module state = .ok verdict ↔
      ∃ loaded value finished, oracle.load module state = (.ok (), loaded) ∧
        oracle.invoke entryExport loaded = (.ok value, finished) ∧
        oracle.marshal finished value = .ok verdict := by
  constructor
  · intro returned
    unfold call at returned
    split at returned
    · cases returned
    · rename_i loaded loadedEq
      split at returned
      · cases returned
      · rename_i value finished invokedEq
        split at returned
        · cases returned
        · rename_i found marshalledEq
          cases returned
          exact ⟨loaded, value, finished, loadedEq, invokedEq, marshalledEq⟩
  · rintro ⟨loaded, value, finished, loadedEq, invokedEq, marshalledEq⟩
    simp [call, loadedEq, invokedEq, marshalledEq]

theorem execute_eq_ok_iff (oracle : Oracle State Value) (toolchain : Toolchain) (module : Bytes)
    (test : TestCase) (verdict : Verdict) :
    oracle.execute toolchain module test = .ok verdict ↔
      ∃ fresh compiled, oracle.instantiate = .ok fresh ∧
        oracle.compile module toolchain.compileExport test.source = .ok compiled ∧
        oracle.call toolchain.entryExport compiled (oracle.withInput test.input fresh) =
          .ok verdict := by
  constructor
  · intro returned
    unfold execute at returned
    split at returned
    · cases returned
    · rename_i fresh freshEq
      split at returned
      · cases returned
      · rename_i compiled compiledEq
        exact ⟨fresh, compiled, freshEq, compiledEq, returned⟩
  · rintro ⟨fresh, compiled, freshEq, compiledEq, called⟩
    simp [execute, freshEq, compiledEq, called]

theorem isPassed_outcome_iff (oracle : Oracle State Value) (toolchain : Toolchain)
    (module : Bytes) (test : TestCase) :
    (oracle.outcome toolchain module test).isPassed = true ↔
      oracle.Passes toolchain module test := by
  have truthful : (oracle.outcome toolchain module test).isPassed = true ↔
      ∃ verdict, oracle.execute toolchain module test = .ok verdict ∧ verdict ≠ .no := by
    unfold outcome Trial.outcome
    cases oracle.execute toolchain module test with
    | error failure => simp [Outcome.isPassed]
    | ok verdict => cases verdict <;> simp [Outcome.isPassed, Verdict.isTruthy]
  rw [truthful]
  constructor
  · rintro ⟨verdict, executed, truthy⟩
    obtain ⟨fresh, compiled, freshEq, compiledEq, called⟩ :=
      (oracle.execute_eq_ok_iff toolchain module test verdict).mp executed
    obtain ⟨loaded, value, finished, loadedEq, invokedEq, marshalledEq⟩ :=
      (oracle.call_eq_ok_iff _ _ _ _).mp called
    exact ⟨fresh, compiled, loaded, value, finished, verdict, freshEq, compiledEq, loadedEq,
      invokedEq, marshalledEq, truthy⟩
  · rintro ⟨fresh, compiled, loaded, value, finished, verdict, freshEq, compiledEq, loadedEq,
      invokedEq, marshalledEq, truthy⟩
    have called := (oracle.call_eq_ok_iff toolchain.entryExport compiled
      (oracle.withInput test.input fresh) verdict).mpr
        ⟨loaded, value, finished, loadedEq, invokedEq, marshalledEq⟩
    exact ⟨verdict, (oracle.execute_eq_ok_iff toolchain module test verdict).mpr
      ⟨fresh, compiled, freshEq, compiledEq, called⟩, truthy⟩

end Oracle

end Bootstrap
