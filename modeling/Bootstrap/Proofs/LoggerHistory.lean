import Bootstrap.Log.Guard
import Mathlib.Data.List.Induction

/-!
Histories of a logger: what is done with it and with the guards of its spans, and what each sink has
received by then.
-/

namespace Bootstrap

namespace Log

theorem Ring.mem_push {ring : Ring} {record other : Record}
    (member : other ∈ (ring.push record).records) : other ∈ ring.records ∨ other = record := by
  unfold push at member
  split at member
  · rcases List.mem_append.mp member with kept | new
    · exact .inl (List.mem_of_mem_drop kept)
    · exact .inr (List.mem_singleton.mp new)
  · rcases List.mem_append.mp member with kept | new
    · exact .inl kept
    · exact .inr (List.mem_singleton.mp new)

namespace Logger

def received (logger : Logger) : Sink → List Record
  | .console => logger.console
  | .ring index => (logger.rings[index]?.map Ring.records).getD []
  | .file handle =>
      (logger.outbox.filter fun delivery => delivery.1 = handle).map Prod.snd

structure SameSpans (before after : Logger) : Prop where
  spans : after.spans = before.spans
  nextSpan : after.nextSpan = before.nextSpan
  time : after.time = before.time

theorem SameSpans.refl (logger : Logger) : logger.SameSpans logger :=
  ⟨rfl, rfl, rfl⟩

theorem SameSpans.trans {first second third : Logger} (left : first.SameSpans second)
    (right : second.SameSpans third) : first.SameSpans third :=
  ⟨right.spans.trans left.spans, right.nextSpan.trans left.nextSpan, right.time.trans left.time⟩

theorem sameSpans_deliver (logger : Logger) (record : Record) (sink : Sink) :
    logger.SameSpans (logger.deliver record sink) := by
  cases sink <;> exact ⟨rfl, rfl, rfl⟩

theorem sameSpans_deliverAll (logger : Logger) (record : Record) (sinks : List Sink) :
    logger.SameSpans (sinks.foldl (fun current sink => current.deliver record sink) logger) := by
  induction sinks generalizing logger with
  | nil => exact .refl logger
  | cons sink rest ih => exact (logger.sameSpans_deliver record sink).trans (ih _)

theorem sameSpans_log (logger : Logger) (level : Level) (target message : String) :
    logger.SameSpans (logger.log level target message) := by
  unfold log
  split
  · exact logger.sameSpans_deliverAll _ _
  · exact .refl logger

theorem mem_received_deliver {logger : Logger} {record other : Record} {target sink : Sink}
    (member : other ∈ (logger.deliver record target).received sink) :
    other ∈ logger.received sink ∨ other = record := by
  cases target with
  | console =>
      cases sink with
      | console =>
          rcases List.mem_append.mp member with kept | new
          · exact .inl kept
          · exact .inr (List.mem_singleton.mp new)
      | ring index => exact .inl member
      | file handle => exact .inl member
  | ring index =>
      cases sink with
      | console => exact .inl member
      | ring asked =>
          simp only [received, deliver, List.getElem?_modify] at member ⊢
          cases present : logger.rings[asked]? with
          | none => simp [present] at member
          | some ring =>
              by_cases same : index = asked
              · simp only [present, same, ↓reduceIte, Option.map_eq_map, Option.map_some,
                  Option.getD_some] at member ⊢
                exact Ring.mem_push member
              · simp only [present, same, ↓reduceIte, Option.map_eq_map, Option.map_some,
                  Option.getD_some] at member ⊢
                exact .inl member
      | file handle => exact .inl member
  | file handle =>
      cases sink with
      | console => exact .inl member
      | ring index => exact .inl member
      | file asked =>
          simp only [received, deliver, List.filter_append, List.map_append,
            List.mem_append] at member ⊢
          rcases member with kept | new
          · exact .inl kept
          · right
            obtain ⟨delivery, chosen, rfl⟩ := List.mem_map.mp new
            rw [List.mem_singleton.mp (List.mem_filter.mp chosen).1]

theorem mem_received_deliverAll {logger : Logger} {record other : Record} {sinks : List Sink}
    {sink : Sink}
    (member : other ∈
      (sinks.foldl (fun current sink => current.deliver record sink) logger).received sink) :
    other ∈ logger.received sink ∨ other = record := by
  induction sinks generalizing logger with
  | nil => exact .inl member
  | cons first rest ih =>
      rcases ih member with earlier | new
      · exact mem_received_deliver earlier
      · exact .inr new

theorem mem_received_log {logger : Logger} {level : Level} {target message : String}
    {other : Record} {sink : Sink}
    (member : other ∈ (logger.log level target message).received sink) :
    other ∈ logger.received sink ∨ other = logger.recordOf level target message := by
  unfold log at member
  split at member
  · exact mem_received_deliverAll member
  · exact .inl member

/-- A logger as it comes into being: in no span, and nothing has been logged. -/
structure Unused (logger : Logger) (time : Nat) : Prop where
  spans : logger.spans = []
  nextSpan : logger.nextSpan = 1
  time : logger.time = time
  received : ∀ sink, logger.received sink = []

theorem unused_new (level : Level) (time : Nat) : (new level time).Unused time where
  spans := rfl
  nextSpan := rfl
  time := rfl
  received := fun sink => by cases sink <;> rfl

theorem Unused.startOutput {logger : Logger} {time : Nat} (unused : logger.Unused time)
    (output : Output) : (Plan.startOutput logger output).Unused time := by
  cases output with
  | console => exact { unused with }
  | ring capacity =>
      refine { unused with received := fun sink => ?_ }
      cases sink with
      | console => exact unused.received .console
      | file handle => exact unused.received (.file handle)
      | ring index =>
          have before := unused.received (.ring index)
          simp only [Logger.received, Plan.startOutput, addRing, addSink] at before ⊢
          rcases Nat.lt_trichotomy index logger.rings.length with inside | last | outside
          · rwa [List.getElem?_append_left inside]
          · simp [last, Ring.empty]
          · rw [List.getElem?_eq_none (by simp; omega)]
            rfl

end Logger

theorem Plan.unused_start (plan : Plan) (time : Nat) : (plan.start time).Unused time := by
  unfold Plan.start
  have fresh := Logger.unused_new plan.level time
  generalize Logger.new plan.level time = logger at fresh
  induction plan.outputs generalizing logger with
  | nil => exact fresh
  | cons output rest ih => exact ih _ (fresh.startOutput output)

inductive Step where
  | enter (name : String)
  | drop (guard : Nat)
  | log (level : Level) (target message : String)
  | setLevel (level : Level)
  | addSink (sink : Sink)
  deriving DecidableEq, Repr

def Step.entered? : Step → Option String
  | .enter name => some name
  | _ => none

/-- The names of the spans entered in a history, in order; each has the guard of its place. -/
def entered (history : List Step) : List String :=
  history.filterMap Step.entered?

theorem entered_concat (history : List Step) (step : Step) :
    entered (history ++ [step]) = entered history ++ step.entered?.toList := by
  cases name : step.entered? <;> simp [entered, List.filterMap_append, name]

namespace Guarded

def perform (guarded : Guarded) : Step → Guarded
  | .enter name => guarded.enter name
  | .drop guard => guarded.drop guard
  | .log level target message =>
      { guarded with logger := guarded.logger.log level target message }
  | .setLevel level => { guarded with logger := guarded.logger.setLevel level }
  | .addSink sink => { guarded with logger := guarded.logger.addSink sink }

def performAll (guarded : Guarded) (history : List Step) : Guarded :=
  history.foldl perform guarded

def after (plan : Plan) (time : Nat) (history : List Step) : Guarded :=
  (start (plan.start time)).performAll history

theorem performAll_append (guarded : Guarded) (history later : List Step) :
    guarded.performAll (history ++ later) = (guarded.performAll history).performAll later :=
  List.foldl_append

theorem performAll_cons (guarded : Guarded) (step : Step) (history : List Step) :
    guarded.performAll (step :: history) = (guarded.perform step).performAll history :=
  rfl

theorem after_concat (plan : Plan) (time : Nat) (history : List Step) (step : Step) :
    after plan time (history ++ [step]) = (after plan time history).perform step :=
  performAll_append _ _ _

theorem time_after (plan : Plan) (time : Nat) (history : List Step) :
    (after plan time history).logger.time = time := by
  induction history using List.reverseRecOn with
  | nil => exact (plan.unused_start time).time
  | append_singleton history step ih =>
      rw [after_concat]
      generalize after plan time history = guarded at ih
      cases step with
      | enter name => exact ih
      | drop guard =>
          simp only [perform, drop]
          split <;> exact ih
      | log level target message =>
          exact (guarded.logger.sameSpans_log level target message).time.trans ih
      | setLevel level => exact ih
      | addSink sink => exact ih

theorem received_after {plan : Plan} {time : Nat} {history : List Step} {sink : Sink}
    {record : Record} (member : record ∈ (after plan time history).logger.received sink) :
    ∃ before level target message rest,
      history = before ++ .log level target message :: rest ∧
        record = (after plan time before).logger.recordOf level target message := by
  induction history using List.reverseRecOn with
  | nil =>
      have nothing : (after plan time []).logger.received sink = [] :=
        (plan.unused_start time).received sink
      simp [nothing] at member
  | append_singleton history step ih =>
      rw [after_concat] at member
      have earlier (kept : record ∈ (after plan time history).logger.received sink) :
          ∃ before level target message rest,
            history ++ [step] = before ++ .log level target message :: rest ∧
              record = (after plan time before).logger.recordOf level target message := by
        obtain ⟨before, level, target, message, rest, rfl, same⟩ := ih kept
        exact ⟨before, level, target, message, rest ++ [step], by simp, same⟩
      cases step with
      | log level target message =>
          rcases Logger.mem_received_log member with kept | new
          · exact earlier kept
          · exact ⟨history, level, target, message, [], rfl, new⟩
      | drop guard =>
          simp only [perform, drop] at member
          split at member <;> exact earlier member
      | enter name => exact earlier member
      | setLevel level => exact earlier member
      | addSink sink => exact earlier member

end Guarded

end Log

end Bootstrap
