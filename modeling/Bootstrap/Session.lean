import Bootstrap.Failure
import Bootstrap.Log.Logger
import Bootstrap.Report

/-!
A run in progress: the outside world, the log, the cells of what has been built, and the entries
reported so far.
-/

namespace Bootstrap

inductive Convergence where
  | skipped
  | converged (stage next : Stage) (size : Nat) (digest : UInt64)
  deriving DecidableEq, Repr

inductive Entry where
  | attempt (attempt : Attempt)
  | buildFailed (stage : Stage) (diagnostic : String)
  | fixpoint (proof : Convergence)
  | info (message : String)
  deriving DecidableEq, Repr

/-- The collaborators of a run; `append` writes a line to a log file that is open in the world. -/
structure Environment (World Engine Value : Type) where
  files : Files World
  host : Compiler World
  engines : EngineKit World Engine Value
  append : (handle : Nat) → String → World → World

/-- What has been asked for before: the compiler source and the generations, failures included. -/
structure Cells where
  source : Option (Except StageError SourceUnit)
  built : Stage → Option (Except StageError Artifact)

namespace Cells

def empty : Cells :=
  ⟨none, fun _ => none⟩

def fill (cells : Cells) (stage : Stage) (result : Except StageError Artifact) : Cells :=
  { cells with built := fun other => if other = stage then some result else cells.built other }

def fillSource (cells : Cells) (result : Except StageError SourceUnit) : Cells :=
  { cells with source := some result }

def builtStages (cells : Cells) : List Artifact :=
  Stage.all.filterMap fun stage =>
    match cells.built stage with
    | some (.ok artifact) => some artifact
    | _ => none

end Cells

/-- Writes a note to the log files, as far as the level in force lets it through. -/
def Log.Logger.journal {World : Type} (append : Nat → String → World → World)
    (logger : Log.Logger) : Journal World := fun note world =>
  ((logger.log note.level note.target note.message).flush append world).2

structure Session (World : Type) where
  world : World
  logger : Log.Logger
  cells : Cells
  entries : List Entry

abbrev Run (World : Type) := StateM (Session World)

namespace Session

variable {World Engine Value α : Type}

def start (world : World) (logger : Log.Logger) : Session World :=
  ⟨world, logger, .empty, []⟩

def flush (env : Environment World Engine Value) (session : Session World) : Session World :=
  let (logger, world) := session.logger.flush env.append session.world
  { session with logger := logger, world := world }

def logged (env : Environment World Engine Value) (session : Session World) (note : Note) :
    Session World :=
  { session with logger := session.logger.log note.level note.target note.message }.flush env

def journal (env : Environment World Engine Value) (session : Session World) : Journal World :=
  session.logger.journal env.append

/-- Logs the notes of an action, which are in the log files already. -/
def after (session : Session World) (reply : Reply World α) : Session World :=
  { session with
    world := reply.world
    logger := reply.notes.foldl
      (fun logger note => (logger.log note.level note.target note.message).settled)
      session.logger }

end Session

namespace Run

variable {World Engine Value α : Type}

def say (env : Environment World Engine Value) (level : Log.Level) (target message : String) :
    Run World Unit :=
  modify fun session => session.logged env ⟨level, target, message⟩

def perform (env : Environment World Engine Value) (action : Act World α) : Run World α :=
  fun session =>
    let reply := action (session.journal env) session.world
    (reply.answer, session.after reply)

def push (entry : Entry) : Run World Unit :=
  modify fun session => { session with entries := session.entries ++ [entry] }

def within (name : String) (step : Run World α) : Run World α := do
  modify fun session => { session with logger := session.logger.enter name }
  let answer ← step
  modify fun session => { session with logger := session.logger.leave }
  return answer

end Run

end Bootstrap
