import Bootstrap.Log.Ring

/-!
A logger: a level in force, registered sinks, a stack of spans, and what each sink has received.
-/

namespace Bootstrap

namespace Log

inductive Sink where
  | console
  | ring (index : Nat)
  | file (handle : Nat)
  deriving DecidableEq, Repr

structure Span where
  number : Nat
  name : String
  deriving DecidableEq, Repr

/-- The level in force is kept as its rank, and the innermost span comes first. Records for files
wait in `outbox` until they are written. -/
structure Logger where
  rank : Nat
  sinks : List Sink
  spans : List Span
  nextSpan : Nat
  time : Nat
  rings : List Ring
  console : List Record
  outbox : List (Nat × Record)
  deriving Repr

namespace Logger

def new (level : Level) (time : Nat) : Logger :=
  ⟨level.rank, [], [], 1, time, [], [], []⟩

def level (logger : Logger) : Level :=
  (Level.ofRank? logger.rank).getD .info

def isEnabled (logger : Logger) (level : Level) : Bool :=
  logger.level ≤ level

def setLevel (logger : Logger) (level : Level) : Logger :=
  { logger with rank := level.rank }

@[simp] theorem level_setLevel (logger : Logger) (level : Level) :
    (logger.setLevel level).level = level := by
  rw [Logger.level, setLevel, Level.ofRank?_rank, Option.getD_some]

def addSink (logger : Logger) (sink : Sink) : Logger :=
  { logger with sinks := logger.sinks ++ [sink] }

def addRing (logger : Logger) (capacity : Nat) : Logger :=
  { logger with rings := logger.rings ++ [Ring.empty capacity] }.addSink (.ring logger.rings.length)

def deliver (logger : Logger) (record : Record) : Sink → Logger
  | .console => { logger with console := logger.console ++ [record] }
  | .ring index => { logger with rings := logger.rings.modify index fun ring => ring.push record }
  | .file handle => { logger with outbox := logger.outbox ++ [(handle, record)] }

def recordOf (logger : Logger) (level : Level) (target message : String) : Record :=
  ⟨logger.time, level, target, message, logger.spans.head?.map Span.number⟩

/-- Hands a record of an enabled level to every sink, once per registration. -/
def log (logger : Logger) (level : Level) (target message : String) : Logger :=
  if logger.isEnabled level then
    let record := logger.recordOf level target message
    logger.sinks.foldl (fun current sink => current.deliver record sink) logger
  else logger

def enter (logger : Logger) (name : String) : Logger :=
  { logger with
    spans := ⟨logger.nextSpan, name⟩ :: logger.spans
    nextSpan := logger.nextSpan + 1 }

def leave (logger : Logger) : Logger :=
  { logger with spans := logger.spans.drop 1 }

def depth (logger : Logger) : Nat :=
  logger.spans.length

def currentSpan (logger : Logger) : Option String :=
  logger.spans.head?.map Span.name

def settled (logger : Logger) : Logger :=
  { logger with outbox := [] }

def flush {World : Type} (append : Nat → String → World → World) (logger : Logger) (world : World) :
    Logger × World :=
  (logger.settled,
    logger.outbox.foldl (fun current delivery => append delivery.1 delivery.2.format current) world)

end Logger

inductive Output where
  | console
  | ring (capacity : Nat)
  deriving DecidableEq, Repr

structure Plan where
  level : Level
  outputs : List Output
  deriving DecidableEq, Repr

namespace Plan

def quiet : Plan :=
  ⟨.error, []⟩

/-- The console is an output at most once. -/
def withConsole (plan : Plan) : Plan :=
  if plan.outputs.contains .console then plan
  else { plan with outputs := plan.outputs ++ [.console] }

def withRing (plan : Plan) (capacity : Nat) : Plan :=
  { plan with outputs := plan.outputs ++ [.ring capacity] }

def startOutput (logger : Logger) : Output → Logger
  | .console => logger.addSink .console
  | .ring capacity => logger.addRing capacity

def start (plan : Plan) (time : Nat) : Logger :=
  plan.outputs.foldl startOutput (Logger.new plan.level time)

def mainRing? (plan : Plan) : Option Nat :=
  let rings := plan.outputs.countP fun output => output matches .ring _
  if rings = 0 then none else some (rings - 1)

end Plan

end Log

end Bootstrap
