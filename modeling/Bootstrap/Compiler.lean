import Bootstrap.Engine
import Bootstrap.Log.Target
import Bootstrap.Path

/-!
Compilers: a source goes in, module bytes or a diagnostic come out. A compiled compiler runs in an
engine of its own.
-/

namespace Bootstrap

structure SourceUnit where
  name : String
  path : Path
  bytes : Bytes
  deriving DecidableEq, Repr

structure CompileError where
  diagnostic : String
  deriving DecidableEq, Repr

abbrev Compiler (World : Type) := SourceUnit → Act World (Except CompileError Bytes)

namespace Compiler

variable {World Engine Value : Type}

def collect (kit : EngineKit World Engine Value) (unit : SourceUnit) (engine : Engine) :
    Except Fault Value → Except CompileError Bytes
  | .error fault => .error ⟨unit.name ++ ": " ++ fault.message⟩
  | .ok _ =>
      if (kit.output engine).isEmpty then .error ⟨unit.name ++ ": compiler produced no output"⟩
      else .ok (kit.output engine)

def session (kit : EngineKit World Engine Value) (module : Bytes) (exportName : String)
    (unit : SourceUnit) (engine : Engine) : Act World (Except CompileError Bytes × Engine) := do
  let (loaded, engine) ← kit.load module engine
  match loaded with
  | .error fault => return (.error ⟨"compiler module: " ++ fault.message⟩, engine)
  | .ok () =>
      let (result, engine) ← kit.invoke exportName (kit.clearOutput (kit.bindInput unit.bytes engine))
      return (collect kit unit engine result, engine)

def announce (unit : SourceUnit) : Except CompileError Bytes → Act World Unit
  | .error _ => return ()
  | .ok compiled =>
      Act.note .trace Log.Target.compiler
        ("compiled " ++ unit.name ++ " (" ++ toString unit.bytes.length ++ " -> " ++
          toString compiled.length ++ " bytes)")

def ofModule (kit : EngineKit World Engine Value) (module : Bytes) (exportName : String) :
    Compiler World := fun unit => do
  match ← kit.instantiate with
  | .error fault => return .error ⟨fault.message⟩
  | .ok fresh =>
      let (result, engine) ← session kit module exportName unit fresh
      announce unit result
      kit.release engine
      return result

/-- Stands in for a host toolchain that is not configured. -/
def unconfigured : Compiler World := fun unit =>
  return .error ⟨"no host toolchain configured to compile " ++ unit.name⟩

end Compiler

end Bootstrap
