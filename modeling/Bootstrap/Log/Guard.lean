import Bootstrap.Log.Logger

/-!
Guards of entered spans: whoever enters a span holds a guard, and giving it up leaves a span.
-/

namespace Bootstrap

namespace Log

/-- Guards are numbered in the order of their spans; `live` holds those not yet given up. -/
structure Guarded where
  logger : Logger
  live : List Nat
  issued : Nat
  deriving Repr

namespace Guarded

def start (logger : Logger) : Guarded :=
  ⟨logger, [], 0⟩

def enter (guarded : Guarded) (name : String) : Guarded :=
  { logger := guarded.logger.enter name
    live := guarded.live ++ [guarded.issued]
    issued := guarded.issued + 1 }

/-- Gives up a guard; a guard that is gone already has no effect. -/
def drop (guarded : Guarded) (guard : Nat) : Guarded :=
  if guarded.live.contains guard then
    { guarded with logger := guarded.logger.leave, live := guarded.live.erase guard }
  else guarded

end Guarded

end Log

end Bootstrap
