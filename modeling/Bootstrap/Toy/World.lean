import Bootstrap.Files.Map
import Bootstrap.Session
import Bootstrap.Toy.Engine

/-!
A world in memory for toy tools: a file map, paths that fail when read, and counts of what the
tools were asked to do.
-/

namespace Bootstrap

namespace Toy

structure World where
  files : FileMap
  faults : List (Path × FileError)
  hostCalls : Nat
  instantiations : Nat
  deriving DecidableEq, Repr

namespace World

def start (files : FileMap) (faults : List (Path × FileError)) : World :=
  ⟨files, faults, 0, 0⟩

/-- A fault of a path answers for exactly that path text, before the file map is asked. -/
def read (path : Path) (world : World) : Except FileError Bytes :=
  match world.faults.find? fun fault => fault.1 = path with
  | some fault => .error fault.2
  | none => world.files.read path

def access : Files World where
  read := fun path => Act.query (read path)
  isFile := fun path => Act.query fun world => world.files.isFile path
  list := fun path => Act.query fun world => world.files.list path

end World

/-- A host toolchain that only numbers the first generation, or that always fails with a given
diagnostic. -/
def hostAnswer (failure : Option String) (unit : SourceUnit) : Except CompileError Bytes :=
  match failure with
  | some diagnostic => .error ⟨diagnostic⟩
  | none =>
      .ok (Utf8.encode (Text.replace (Utf8.decodeLossy unit.bytes) Engine.placeholder "0"))

def host (failure : Option String) : Compiler World := fun unit =>
  Act.change fun world =>
    (hostAnswer failure unit, { world with hostCalls := world.hostCalls + 1 })

def instantiate (unavailable : Bool) : Act World (Except Fault Engine) :=
  Act.change fun world =>
    if unavailable then (.error (.instantiate "engine unavailable"), world)
    else (.ok Engine.fresh, { world with instantiations := world.instantiations + 1 })

def engines (unavailable : Bool) : EngineKit World Engine Value where
  instantiate := instantiate unavailable
  bindInput := Engine.bindInput
  clearOutput := Engine.clearOutput
  output := Engine.output
  load := fun bytes engine => return engine.load bytes
  invoke := fun exportName engine => return engine.invoke exportName
  marshal := fun _ value => Engine.marshal value
  release := fun _ => return ()

/-- Logs of a world in memory have no files to go to. -/
def environment (hostFailure : Option String) (unavailable : Bool) :
    Environment World Engine Value where
  files := World.access
  host := host hostFailure
  engines := engines unavailable
  append := fun _ _ world => world

end Toy

end Bootstrap
