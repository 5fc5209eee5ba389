import Bootstrap.Proofs.Listening
import Bootstrap.Proofs.Spans

/-!
Delivery of records: what each sink of a logger receives over a history, in terms of the history
alone. A record of a level in force reaches a sink once for each time the sink is registered by
then, and with the number of the span that is innermost by then.
-/

namespace Bootstrap

namespace Log

namespace Logger

/-- One logger has given these records to its sinks, in this order, and has become the other. -/
structure Hands (before : Logger) (given : Sink → List Record) (after : Logger) : Prop where
  console : after.console = before.console ++ given .console
  ring : ∀ index, after.rings[index]? =
    before.rings[index]?.map fun ring => (given (.ring index)).foldl Ring.push ring
  file : ∀ handle, after.received (.file handle) =
    before.received (.file handle) ++ given (.file handle)

theorem Hands.of_same {before after : Logger} (console : after.console = before.console)
    (rings : after.rings = before.rings) (outbox : after.outbox = before.outbox) :
    before.Hands (fun _ => []) after where
  console := by rw [console, List.append_nil]
  ring := fun index => by simp [rings]
  file := fun handle => by simp [received, outbox]

theorem Hands.refl (logger : Logger) : logger.Hands (fun _ => []) logger :=
  .of_same rfl rfl rfl

theorem Hands.trans {first second third : Logger} {given more : Sink → List Record}
    (left : first.Hands given second) (right : second.Hands more third) :
    first.Hands (fun sink => given sink ++ more sink) third where
  console := by rw [right.console, left.console, List.append_assoc]
  ring := fun index => by
    rw [right.ring, left.ring, Option.map_map]
    simp only [List.foldl_append]
    rfl
  file := fun handle => by rw [right.file, left.file, List.append_assoc]

theorem Hands.congr {before after : Logger} {given more : Sink → List Record}
    (hands : before.Hands given after) (same : ∀ sink, given sink = more sink) :
    before.Hands more after := by
  obtain rfl := funext same
  exact hands

theorem hands_deliver (logger : Logger) (record : Record) (target : Sink) :
    logger.Hands (fun sink => if target = sink then [record] else [])
      (logger.deliver record target) := by
  cases target with
  | console => exact ⟨rfl, fun index => by simp [deliver], fun handle => by simp [deliver, received]⟩
  | ring place =>
      refine ⟨by simp [deliver], fun index => ?_, fun handle => by simp [deliver, received]⟩
      by_cases same : place = index
      · subst same
        simp [deliver]
      · simp [deliver, same, List.getElem?_modify_ne]
  | file place =>
      refine ⟨by simp [deliver], fun index => by simp [deliver], fun handle => ?_⟩
      by_cases same : place = handle
      · simp [deliver, received, same]
      · simp [deliver, received, same]

theorem hands_deliverAll (logger : Logger) (record : Record) (sinks : List Sink) :
    logger.Hands (fun sink => List.replicate (sinks.count sink) record)
      (sinks.foldl (fun current sink => current.deliver record sink) logger) := by
  induction sinks generalizing logger with
  | nil => exact .refl logger
  | cons target rest ih =>
      have both := (logger.hands_deliver record target).trans (ih (logger.deliver record target))
      refine both.congr fun sink => ?_
      by_cases same : target = sink
      · simp [same, List.replicate_succ]
      · simp [same]

def handed (logger : Logger) (level : Level) (target message : String) (sink : Sink) :
    List Record :=
  if logger.isEnabled level then
    List.replicate (logger.sinks.count sink) (logger.recordOf level target message)
  else []

theorem hands_log (logger : Logger) (level : Level) (target message : String) :
    logger.Hands (logger.handed level target message) (logger.log level target message) := by
  unfold log
  split
  next enabled =>
    exact (logger.hands_deliverAll _ _).congr fun sink => (if_pos enabled).symm
  next disabled =>
    exact (Hands.refl logger).congr fun sink => (if_neg disabled).symm

end Logger

def Step.level? : Step → Option Level
  | .setLevel level => some level
  | _ => none

def levelInForce (first : Level) (history : List Step) : Level :=
  (history.filterMap Step.level?).getLast?.getD first

def registrations (first : List Sink) (history : List Step) (sink : Sink) : Nat :=
  first.count sink + history.count (.addSink sink)

structure Call where
  before : List Step
  level : Level
  target : String
  message : String

def Step.call? (before : List Step) : Step → Option Call
  | .log level target message => some ⟨before, level, target, message⟩
  | _ => none

def callsFrom (before : List Step) : List Step → List Call
  | [] => []
  | step :: rest => (step.call? before).toList ++ callsFrom (before ++ [step]) rest

def calls (history : List Step) : List Call :=
  callsFrom [] history

theorem callsFrom_concat (before history : List Step) (step : Step) :
    callsFrom before (history ++ [step]) =
      callsFrom before history ++ (step.call? (before ++ history)).toList := by
  induction history generalizing before with
  | nil => simp [callsFrom]
  | cons first rest ih => simp [callsFrom, ih]

theorem calls_concat (history : List Step) (step : Step) :
    calls (history ++ [step]) = calls history ++ (step.call? history).toList := by
  simp [calls, callsFrom_concat]

theorem levelInForce_concat (first : Level) (history : List Step) (step : Step) :
    levelInForce first (history ++ [step]) = step.level?.getD (levelInForce first history) := by
  cases set : step.level? <;> simp [levelInForce, set]

namespace Guarded

def recordOf (first : Guarded) (call : Call) : Record :=
  ⟨first.logger.time, call.level, call.target, call.message,
    (first.performAll call.before).innermost?.map Span.number⟩

def handed (first : Guarded) (sink : Sink) (call : Call) : List Record :=
  if levelInForce first.logger.level call.before ≤ call.level then
    List.replicate (registrations first.logger.sinks call.before sink) (first.recordOf call)
  else []

def delivered (first : Guarded) (history : List Step) (sink : Sink) : List Record :=
  (calls history).flatMap (first.handed sink)

structure Changes (before : Logger) (step : Step) (after : Logger) : Prop where
  level : after.level = step.level?.getD before.level
  sinks : ∀ sink, after.sinks.count sink = before.sinks.count sink + [step].count (.addSink sink)
  time : after.time = before.time

theorem changes_perform (guarded : Guarded) (step : Step) :
    Changes guarded.logger step (guarded.perform step).logger := by
  cases step with
  | enter name => exact ⟨rfl, fun sink => by simp [perform, enter, Logger.enter], rfl⟩
  | drop guard =>
      simp only [perform, drop]
      split <;> exact ⟨rfl, fun sink => by simp [Logger.leave], rfl⟩
  | log level target message =>
      refine ⟨guarded.logger.level_log level target message, fun sink => ?_,
        (guarded.logger.sameSpans_log level target message).time⟩
      rw [perform, Logger.sinks_log]
      simp
  | setLevel level =>
      exact ⟨guarded.logger.level_setLevel level, fun sink => by simp [perform, Logger.setLevel], rfl⟩
  | addSink sink =>
      refine ⟨rfl, fun other => ?_, rfl⟩
      simp only [perform, Logger.addSink, List.count_append, List.count_singleton, beq_iff_eq,
        Step.addSink.injEq]

theorem performAll_concat (guarded : Guarded) (history : List Step) (step : Step) :
    guarded.performAll (history ++ [step]) = (guarded.performAll history).perform step :=
  performAll_append _ _ _

structure Stands (first : Guarded) (history : List Step) (after : Logger) : Prop where
  level : after.level = levelInForce first.logger.level history
  sinks : ∀ sink, after.sinks.count sink = registrations first.logger.sinks history sink
  time : after.time = first.logger.time

theorem stands_performAll (first : Guarded) (history : List Step) :
    first.Stands history (first.performAll history).logger := by
  induction history using List.reverseRecOn with
  | nil => exact ⟨rfl, fun sink => rfl, rfl⟩
  | append_singleton history step ih =>
      have changes := (first.performAll history).changes_perform step
      rw [performAll_concat]
      refine ⟨?_, fun sink => ?_, changes.time.trans ih.time⟩
      · rw [changes.level, ih.level, levelInForce_concat]
      · rw [changes.sinks, ih.sinks, registrations, registrations, List.count_append,
          Nat.add_assoc]

def handedBy (first : Guarded) (history : List Step) (step : Step) (sink : Sink) : List Record :=
  (step.call? history).toList.flatMap (first.handed sink)

theorem handed_call (first : Guarded) (history : List Step) (level : Level)
    (target message : String) (sink : Sink) :
    first.handed sink ⟨history, level, target, message⟩ =
      (first.performAll history).logger.handed level target message sink := by
  have stands := first.stands_performAll history
  simp only [handed, Logger.handed, Logger.isEnabled, decide_eq_true_eq, stands.level, stands.sinks,
    recordOf, Logger.recordOf, stands.time, innermost?]

theorem hands_perform (first : Guarded) (history : List Step) (step : Step) :
    (first.performAll history).logger.Hands (first.handedBy history step)
      ((first.performAll history).perform step).logger := by
  cases step with
  | log level target message =>
      refine ((first.performAll history).logger.hands_log level target message).congr fun sink => ?_
      rw [← handed_call]
      simp [handedBy, Step.call?]
  | drop guard =>
      simp only [perform, drop]
      split <;> exact .of_same rfl rfl rfl
  | enter name => exact .of_same rfl rfl rfl
  | setLevel level => exact .of_same rfl rfl rfl
  | addSink sink => exact .of_same rfl rfl rfl

theorem hands_performAll (first : Guarded) (history : List Step) :
    first.logger.Hands (first.delivered history) (first.performAll history).logger := by
  -- From the end on, since what a step hands out depends on all that was done before it.
  induction history using List.reverseRecOn with
  | nil => exact .refl _
  | append_singleton history step ih =>
      rw [performAll_concat]
      refine (ih.trans (first.hands_perform history step)).congr fun sink => ?_
      simp [delivered, handedBy, calls_concat]

theorem nextSpan_performAll (first : Guarded) (history : List Step) :
    (first.performAll history).logger.nextSpan =
      first.logger.nextSpan + (entered history).length := by
  induction history using List.reverseRecOn with
  | nil => rfl
  | append_singleton history step ih =>
      rw [performAll_concat, entered_concat, List.length_append]
      rcases (first.performAll history).perform_cases step with
        ⟨name, rfl, enters⟩ | ⟨guard, rfl, drops⟩ | ⟨nothing, _, stays⟩
      · rw [enters.nextSpan, ih]
        rfl
      · rw [drops.nextSpan, ih]
        rfl
      · rw [stays.nextSpan, ih, nothing]
        rfl

/-- What a step does to the stack of spans: entering puts a span of a new number on top, giving up a
live guard takes the top off, and nothing else touches it. -/
def Moves (before : Guarded) (step : Step) (later : Guarded) : Prop :=
  (∃ name, step = .enter name ∧ before.Enters name later) ∨
    (∃ guard, step = .drop guard ∧ before.Drops guard later) ∨
    step.entered? = none ∧ (∀ guard ∈ before.live, step ≠ .drop guard) ∧ before.Stays later

structure Delivers (first : Guarded) (history : List Step) : Prop where
  handed : first.logger.Hands (first.delivered history) (first.performAll history).logger
  below : ∀ before level target message rest,
    history = before ++ .log level target message :: rest →
      level < levelInForce first.logger.level before →
        (first.performAll before).perform (.log level target message) = first.performAll before
  moves : ∀ before step rest, history = before ++ step :: rest →
    (first.performAll before).Moves step ((first.performAll before).perform step)
  number : ∀ before name rest, history = before ++ .enter name :: rest →
    ((first.performAll before).perform (.enter name)).innermost? =
      some ⟨first.logger.nextSpan + (entered before).length, name⟩
  /-- A span entered later has a greater number. -/
  fresh : ∀ before name between name' rest,
    history = before ++ .enter name :: between ++ .enter name' :: rest →
      first.logger.nextSpan + (entered before).length <
        first.logger.nextSpan + (entered (before ++ .enter name :: between)).length

theorem delivers_history (first : Guarded) (history : List Step) : first.Delivers history where
  handed := first.hands_performAll history
  below := by
    rintro before level target message rest rfl lower
    have stands := first.stands_performAll before
    have disabled : (first.performAll before).logger.isEnabled level = false := by
      simp only [Logger.isEnabled, stands.level, decide_eq_false_iff_not]
      exact Nat.not_le_of_lt lower
    simp only [perform, Logger.log, disabled, Bool.false_eq_true, if_false]
  moves := fun before step rest _ => (first.performAll before).perform_cases step
  number := by
    rintro before name rest rfl
    have enters := (first.performAll before).enters_enter name
    rw [innermost?, enters.spans, first.nextSpan_performAll]
    rfl
  fresh := by
    rintro before name between name' rest rfl
    have one : entered (.enter name :: between) = name :: entered between := rfl
    have split : entered (before ++ .enter name :: between) =
        entered before ++ name :: entered between := by
      rw [← one]
      exact List.filterMap_append
    rw [split, List.length_append, List.length_cons]
    omega

example : ((start (Logger.new .info 0)).delivered
    [.addSink .console, .log .info "t" "a", .addSink .console, .setLevel .warn,
      .log .info "t" "b", .log .error "t" "c"] .console).map Record.message = ["a", "c", "c"] := by
  decide

end Guarded

def Output.capacity? : Output → Option Nat
  | .console => none
  | .ring capacity => some capacity

/-- A started logger has each of its rings registered once, and the console once for each output. -/
structure Registers (outputs : List Output) (logger : Logger) : Prop where
  console : logger.sinks.count .console = outputs.count .console
  rings : logger.rings = (outputs.filterMap Output.capacity?).map Ring.empty
  once : ∀ index, logger.sinks.count (.ring index) = if index < logger.rings.length then 1 else 0

theorem Registers.startOutput {outputs : List Output} {logger : Logger}
    (registers : Registers outputs logger) (output : Output) :
    Registers (outputs ++ [output]) (Plan.startOutput logger output) := by
  cases output with
  | console =>
      refine ⟨?_, ?_, fun index => ?_⟩
      · simp [Plan.startOutput, Logger.addSink, registers.console]
      · simp [Plan.startOutput, Logger.addSink, registers.rings, Output.capacity?]
      · rw [Plan.startOutput, Logger.addSink, List.count_append, registers.once]
        rfl
  | ring capacity =>
      refine ⟨?_, ?_, fun index => ?_⟩
      · simp [Plan.startOutput, Logger.addRing, Logger.addSink, registers.console]
      · simp [Plan.startOutput, Logger.addRing, Logger.addSink, registers.rings, Output.capacity?]
      · simp only [Plan.startOutput, Logger.addRing, Logger.addSink, List.count_append,
          registers.once, List.length_append, List.length_singleton, List.count_singleton,
          beq_iff_eq, Sink.ring.injEq]
        rcases Nat.lt_trichotomy index logger.rings.length with older | new | outside
        · rw [if_pos older, if_neg (by omega), if_pos (by omega)]
        · rw [if_neg (by omega), if_pos new.symm, if_pos (by omega)]
        · rw [if_neg (by omega), if_neg (by omega), if_neg (by omega)]

theorem Plan.registers_start (plan : Plan) (time : Nat) :
    Registers plan.outputs (plan.start time) := by
  unfold Plan.start
  induction plan.outputs using List.reverseRecOn with
  | nil => exact ⟨rfl, rfl, fun index => rfl⟩
  | append_singleton outputs output ih =>
      rw [List.foldl_append]
      exact ih.startOutput output

end Log

end Bootstrap
