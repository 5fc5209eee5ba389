import Bootstrap.Proofs.ToyWorld

/-!
Engines that are used again: any history of uses, and after it a module that is loaded, given its
input and called as if the engine were new. Toy engines show nothing of their past then.
-/

namespace Bootstrap

inductive Use (Value : Type) where
  | bindInput (input : Bytes)
  | clearOutput
  | load (module : Bytes)
  | invoke (exportName : String)
  | marshal (value : Value)
  deriving DecidableEq, Repr

namespace EngineKit

variable {World Engine Value : Type} (kit : EngineKit World Engine Value)

/-- The engine after a use, whether that went well or not; marshalling only looks at it. -/
def use (engine : Engine) : Use Value → Act World Engine
  | .bindInput input => return kit.bindInput input engine
  | .clearOutput => return kit.clearOutput engine
  | .load module => return (← kit.load module engine).2
  | .invoke exportName => return (← kit.invoke exportName engine).2
  | .marshal _ => return engine

def useAll (engine : Engine) : List (Use Value) → Act World Engine
  | [] => return engine
  | use :: rest => do useAll (← kit.use engine use) rest

def rerun (module input : Bytes) (exportName : String) (engine : Engine) :
    Act World (Except Fault (Except Fault Value × Bytes)) := do
  match ← kit.load module engine with
  | (.error fault, _) => return .error fault
  | (.ok (), loaded) =>
      let (result, engine) ← kit.invoke exportName (kit.clearOutput (kit.bindInput input loaded))
      return .ok (result, kit.output engine)

end EngineKit

namespace Toy

variable {unavailable : Bool} {module : Bytes} {engine : Engine}

theorem Engine.load_of_error {fault : Fault} (unparsable : Module.parse module = .error fault) :
    engine.load module = (.error fault, engine) := by
  rw [Engine.load, unparsable]

theorem Engine.load_of_ok {parsed : Module} (parses : Module.parse module = .ok parsed) :
    engine.load module = (.ok (), { engine with module := some parsed }) := by
  rw [Engine.load, parses]

def Engine.outcome (module input : Bytes) (exportName : String) :
    Except Fault (Except Fault Value × Bytes) :=
  (Module.parse module).map fun parsed =>
    let (result, called) := Engine.invoke exportName ⟨input, [], some parsed⟩
    (result, called.output)

theorem rerun_eq (unavailable : Bool) (module input : Bytes) (exportName : String)
    (engine : Engine) : (engines unavailable).rerun module input exportName engine =
      pure (Engine.outcome module input exportName) := by
  simp only [EngineKit.rerun, engines, pure_bind, Engine.outcome]
  cases outcome : Module.parse module with
  | error fault =>
      rw [Engine.load_of_error outcome]
      rfl
  | ok parsed =>
      rw [Engine.load_of_ok outcome]
      rfl

end Toy

end Bootstrap
