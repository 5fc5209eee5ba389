import Bootstrap.Log.Record

/-!
Actions on the outside world: an answer, notes for the log, and the world afterwards.
-/

namespace Bootstrap

structure Note where
  level : Log.Level
  target : String
  message : String
  deriving DecidableEq, Repr

/-- How a note reaches the log files that are open in a world. -/
abbrev Journal (World : Type) := Note → World → World

structure Reply (World α : Type) where
  answer : α
  notes : List Note
  world : World

def Act (World α : Type) : Type :=
  Journal World → World → Reply World α

namespace Act

variable {World α β : Type}

protected def pure (answer : α) : Act World α :=
  fun _ world => ⟨answer, [], world⟩

protected def bind (first : Act World α) (next : α → Act World β) : Act World β :=
  fun journal world =>
    let reply := first journal world
    let final := next reply.answer journal reply.world
    ⟨final.answer, reply.notes ++ final.notes, final.world⟩

instance : Monad (Act World) where
  pure := Act.pure
  bind := Act.bind

instance : LawfulMonad (Act World) :=
  LawfulMonad.mk' (Act World)
    (by
      intro α action
      funext journal world
      simp [Functor.map, Act.bind, Act.pure])
    (by
      intro α β answer next
      funext journal world
      simp [pure, bind, Act.bind, Act.pure])
    (by
      intro α β γ action next final
      funext journal world
      simp [bind, Act.bind, List.append_assoc])

/-- A note is in the log files before the action goes on. -/
def note (level : Log.Level) (target message : String) : Act World Unit :=
  fun journal world => ⟨(), [⟨level, target, message⟩], journal ⟨level, target, message⟩ world⟩

def query (answer : World → α) : Act World α :=
  fun _ world => ⟨answer world, [], world⟩

def change (step : World → α × World) : Act World α :=
  fun _ world => ⟨(step world).1, [], (step world).2⟩

/-- Performs an action where no log file is open. -/
def alone (action : Act World α) (world : World) : Reply World α :=
  action (fun _ unchanged => unchanged) world

theorem answer_bind (first : Act World α) (next : α → Act World β) (journal : Journal World)
    (world : World) : ((first >>= next) journal world).answer =
      (next (first journal world).answer journal (first journal world).world).answer := rfl

theorem answer_bind_alone (first : Act World α) (next : α → Act World β) (world : World) :
    ((first >>= next).alone world).answer =
      ((next (first.alone world).answer).alone (first.alone world).world).answer := rfl

theorem world_bind_alone (first : Act World α) (next : α → Act World β) (world : World) :
    ((first >>= next).alone world).world =
      ((next (first.alone world).answer).alone (first.alone world).world).world := rfl

end Act

end Bootstrap
