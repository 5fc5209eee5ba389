import Bootstrap.Ladder

/-!
The fixpoint check: the last tested generation against one further self-compilation.
-/

namespace Bootstrap

namespace Fixpoint

variable {World Engine Value : Type}

def judge (env : Environment World Engine Value) (base next : Stage) (current again : Artifact) :
    Run World (Except RunError Convergence) := do
  match Mismatch.compare? base next current.bytes again.bytes with
  | some mismatch =>
      Run.say env .error Log.Target.fixpoint mismatch.message
      return .error (.fixpoint mismatch)
  | none =>
      Run.say env .info Log.Target.fixpoint
        ("fixpoint reached: " ++ base.name ++ " == " ++ next.name ++ " (" ++
          toString current.size ++ " bytes)")
      return .ok (.converged base next current.size current.digest)

def compare (env : Environment World Engine Value) (settings : Settings) (base next : Stage) :
    Run World (Except RunError Convergence) := do
  Run.say env .info Log.Target.fixpoint ("comparing " ++ base.name ++ " with " ++ next.name)
  match ← Ladder.build env settings base with
  | .error error => return .error (.stageBuild error)
  | .ok current =>
      match ← Ladder.build env settings next with
      | .error error => return .error (.stageBuild error)
      | .ok again => judge env base next current again

def verify (env : Environment World Engine Value) (settings : Settings) (selection : Selection) :
    Run World (Except RunError Convergence) :=
  if selection.checksFixpoint then
    match selection.fixpointBase.next? with
    | none =>
        return .error (.settings (selection.fixpointBase.name ++ " has no successor stage"))
    | some next =>
        Run.within "fixpoint" (compare env settings selection.fixpointBase next)
  else return .ok .skipped

end Fixpoint

end Bootstrap
