import Bootstrap.Proofs.LoggerHistory
import Bootstrap.Proofs.Retention

/-!
A logger beside one that hears everything: given the same to log, the rings of the first get the part
of what the second hears that its level lets through.
-/

namespace Bootstrap

namespace Log

theorem Level.trace_le (level : Level) : Level.trace ≤ level :=
  Nat.zero_le level.rank

def Record.timeless (record : Record) : Record :=
  { record with time := 0 }

namespace Logger

theorem level_deliverAll (logger : Logger) (record : Record) (sinks : List Sink) :
    (sinks.foldl (fun current sink => current.deliver record sink) logger).level = logger.level := by
  induction sinks generalizing logger with
  | nil => rfl
  | cons sink rest ih =>
      refine (ih _).trans ?_
      cases sink <;> rfl

theorem sinks_deliverAll (logger : Logger) (record : Record) (sinks : List Sink) :
    (sinks.foldl (fun current sink => current.deliver record sink) logger).sinks = logger.sinks := by
  induction sinks generalizing logger with
  | nil => rfl
  | cons sink rest ih =>
      refine (ih _).trans ?_
      cases sink <;> rfl

theorem outbox_deliverAll {logger : Logger} {record : Record} {sinks : List Sink}
    {delivery : Nat × Record}
    (member : delivery ∈
      (sinks.foldl (fun current sink => current.deliver record sink) logger).outbox) :
    delivery ∈ logger.outbox ∨ .file delivery.1 ∈ sinks := by
  induction sinks generalizing logger with
  | nil => exact .inl member
  | cons sink rest ih =>
      rcases ih member with earlier | later
      · cases sink with
        | console => exact .inl earlier
        | ring index => exact .inl earlier
        | file handle =>
            rcases List.mem_append.mp earlier with kept | new
            · exact .inl kept
            · rw [List.mem_singleton.mp new]
              exact .inr List.mem_cons_self
      · exact .inr (List.mem_cons_of_mem _ later)

theorem rings_deliverAll_of_notMem (logger : Logger) (record : Record) {sinks : List Sink}
    {index : Nat} (absent : .ring index ∉ sinks) :
    (sinks.foldl (fun current sink => current.deliver record sink) logger).rings[index]? =
      logger.rings[index]? := by
  induction sinks generalizing logger with
  | nil => rfl
  | cons sink rest ih =>
      obtain ⟨different, others⟩ := not_or.mp (List.mem_cons.not.mp absent)
      refine (ih _ others).trans ?_
      cases sink with
      | console => rfl
      | file handle => rfl
      | ring other =>
          have apart : other ≠ index := fun same => different (congrArg Sink.ring same.symm)
          simp [deliver, apart]

theorem rings_deliverAll_of_count (logger : Logger) (record : Record) {sinks : List Sink}
    {index : Nat} (once : sinks.count (.ring index) = 1) :
    (sinks.foldl (fun current sink => current.deliver record sink) logger).rings[index]? =
      logger.rings[index]?.map fun ring => ring.push record := by
  induction sinks generalizing logger with
  | nil => simp at once
  | cons sink rest ih =>
      by_cases same : sink = .ring index
      · subst same
        have absent : .ring index ∉ rest := List.count_eq_zero.mp (by simpa using once)
        refine (rings_deliverAll_of_notMem _ record absent).trans ?_
        simp [deliver]
      · have later : rest.count (.ring index) = 1 := by
          rwa [List.count_cons_of_ne same] at once
        refine (ih _ later).trans ?_
        cases sink with
        | console => rfl
        | file handle => rfl
        | ring other =>
            have apart : other ≠ index := fun equal => same (congrArg Sink.ring equal)
            simp [deliver, apart]

theorem level_log (logger : Logger) (level : Level) (target message : String) :
    (logger.log level target message).level = logger.level := by
  unfold log
  split
  · exact logger.level_deliverAll _ _
  · rfl

theorem sinks_log (logger : Logger) (level : Level) (target message : String) :
    (logger.log level target message).sinks = logger.sinks := by
  unfold log
  split
  · exact logger.sinks_deliverAll _ _
  · rfl

theorem outbox_log {logger : Logger} {level : Level} {target message : String}
    {delivery : Nat × Record} (member : delivery ∈ (logger.log level target message).outbox) :
    delivery ∈ logger.outbox ∨ .file delivery.1 ∈ logger.sinks := by
  unfold log at member
  split at member
  · exact outbox_deliverAll member
  · exact .inl member

def listener (logger : Logger) : Logger :=
  ⟨Level.trace.rank, [.console], logger.spans, logger.nextSpan, 0, [], [], []⟩

/-- No sink stands for a ring that is not there yet, and only files in use are written to. -/
structure Ready (InUse : Nat → Prop) (logger : Logger) : Prop where
  fresh : .ring logger.rings.length ∉ logger.sinks
  inUse : ∀ handle, .file handle ∈ logger.sinks → InUse handle
  waiting : ∀ delivery ∈ logger.outbox, InUse delivery.1

structure Listens (logger : Logger) : Prop where
  level : logger.level = .trace
  sinks : logger.sinks = [.console]
  outbox : logger.outbox = []

theorem Listens.log {logger : Logger} (listens : logger.Listens) (level : Level)
    (target message : String) :
    logger.log level target message =
      { logger with console := logger.console ++ [logger.recordOf level target message] } := by
  have enabled : logger.isEnabled level = true := by
    simp [isEnabled, listens.level, Level.trace_le]
  simp [Logger.log, enabled, listens.sinks, deliver]

/-- A logger at a level has, in one of its rings, been given what the listener has heard from that
level up; `InUse` holds for the log files that it may write to. -/
structure Follows (InUse : Nat → Prop) (least : Level) (index capacity : Nat)
    (listener logger : Logger) : Prop where
  listens : listener.Listens
  level : logger.level = least
  spans : logger.spans = listener.spans
  nextSpan : logger.nextSpan = listener.nextSpan
  once : logger.sinks.count (.ring index) = 1
  inUse : ∀ handle, .file handle ∈ logger.sinks → InUse handle
  waiting : ∀ delivery ∈ logger.outbox, InUse delivery.1
  kept : ∃ ring written, logger.rings[index]? = some ring ∧ ring.capacity = capacity ∧
    ring.Keeps written ∧ written.map Record.timeless =
      (listener.console.filter fun record => decide (least ≤ record.level)).map Record.timeless

theorem Ready.follows {InUse : Nat → Prop} {logger : Logger} (ready : logger.Ready InUse)
    (capacity : Nat) :
    Follows InUse logger.level logger.rings.length capacity logger.listener
      (logger.addRing capacity) where
  listens := ⟨rfl, rfl, rfl⟩
  level := rfl
  spans := rfl
  nextSpan := rfl
  once := by simp [addRing, addSink, List.count_eq_zero.mpr ready.fresh]
  inUse := by simpa [addRing, addSink] using ready.inUse
  waiting := ready.waiting
  kept := ⟨Ring.empty capacity, [], by simp [addRing, addSink], rfl, Ring.keeps_empty capacity, rfl⟩

namespace Follows

variable {InUse : Nat → Prop} {least : Level} {index capacity : Nat} {listener logger : Logger}

theorem log (follows : Follows InUse least index capacity listener logger) (noted : Level)
    (target message : String) :
    Follows InUse least index capacity (listener.log noted target message)
      (logger.log noted target message) := by
  have same := logger.sameSpans_log noted target message
  have heard : (listener.log noted target message).console =
      listener.console ++ [listener.recordOf noted target message] := by
    rw [follows.listens.log]
  refine
    { listens := ?_, level := (logger.level_log _ _ _).trans follows.level
      spans := ?_, nextSpan := ?_
      once := by rw [sinks_log, follows.once]
      inUse := by simpa only [sinks_log] using follows.inUse
      waiting := ?_, kept := ?_ }
  · rw [follows.listens.log]
    exact ⟨follows.listens.level, follows.listens.sinks, follows.listens.outbox⟩
  · rw [same.spans, follows.listens.log]
    exact follows.spans
  · rw [same.nextSpan, follows.listens.log]
    exact follows.nextSpan
  · intro delivery member
    rcases outbox_log member with earlier | registered
    · exact follows.waiting delivery earlier
    · exact follows.inUse _ registered
  · obtain ⟨ring, written, present, room, keeps, alike⟩ := follows.kept
    rw [heard, List.filter_append, List.map_append, ← alike]
    by_cases shown : least ≤ noted
    · have enabled : logger.isEnabled noted = true := by
        simp [isEnabled, follows.level, shown]
      refine ⟨ring.push (logger.recordOf noted target message),
        written ++ [logger.recordOf noted target message], ?_, ?_, keeps.push _, ?_⟩
      · rw [Logger.log, if_pos enabled]
        dsimp only
        rw [rings_deliverAll_of_count _ _ follows.once, present]
        rfl
      · exact (Ring.capacity_perform ring (.write _)).trans room
      · simp [recordOf, Record.timeless, shown, follows.spans]
    · have disabled : logger.isEnabled noted = false := by
        simp [isEnabled, follows.level, shown]
      refine ⟨ring, written, ?_, room, keeps, ?_⟩
      · simp [Logger.log, disabled, present]
      · simp [recordOf, shown]

theorem settled (follows : Follows InUse least index capacity listener logger) :
    Follows InUse least index capacity listener.settled logger.settled :=
  { follows with
    listens := ⟨follows.listens.level, follows.listens.sinks, rfl⟩
    waiting := by simp [Logger.settled] }

theorem enter (follows : Follows InUse least index capacity listener logger) (name : String) :
    Follows InUse least index capacity (listener.enter name) (logger.enter name) :=
  { follows with
    listens := ⟨follows.listens.level, follows.listens.sinks, follows.listens.outbox⟩
    spans := by simp [Logger.enter, follows.spans, follows.nextSpan]
    nextSpan := congrArg (· + 1) follows.nextSpan }

theorem leave (follows : Follows InUse least index capacity listener logger) :
    Follows InUse least index capacity listener.leave logger.leave :=
  { follows with
    listens := ⟨follows.listens.level, follows.listens.sinks, follows.listens.outbox⟩
    spans := congrArg (List.drop 1) follows.spans }

theorem seen (follows : Follows InUse least index capacity listener logger)
    (room : listener.console.length ≤ capacity) :
    ∃ ring, logger.rings[index]? = some ring ∧ ring.dropped = 0 ∧
      ring.records.map Record.timeless =
        (listener.console.filter fun record => decide (least ≤ record.level)).map
          Record.timeless := by
  obtain ⟨ring, written, present, rfl, keeps, alike⟩ := follows.kept
  have few : written.length ≤ ring.capacity := by
    calc written.length = (written.map Record.timeless).length := (List.length_map _).symm
      _ = (listener.console.filter fun record => decide (least ≤ record.level)).length := by
        rw [alike, List.length_map]
      _ ≤ listener.console.length := List.length_filter_le _ _
      _ ≤ ring.capacity := room
  have all : ring.records = written := by
    have none : written.length - max ring.capacity 1 = 0 := by omega
    rw [keeps.records, none, List.drop_zero]
  refine ⟨ring, present, ?_, all ▸ alike⟩
  rw [keeps.dropped]
  omega

end Follows

theorem filter_timeless (records : List Record) {least higher : Level} (levels : least ≤ higher)
    {heard : List Record}
    (seen : records.map Record.timeless =
      (heard.filter fun record => decide (least ≤ record.level)).map Record.timeless) :
    (records.filter fun record => decide (higher ≤ record.level)).map Record.timeless =
      (heard.filter fun record => decide (higher ≤ record.level)).map Record.timeless := by
  have through (records : List Record) :
      (records.filter fun record => decide (higher ≤ record.level)).map Record.timeless =
        (records.map Record.timeless).filter fun record => decide (higher ≤ record.level) := by
    rw [List.filter_map]
    rfl
  rw [through, seen, ← through, List.filter_filter]
  congr 1
  refine List.filter_congr fun record _ => ?_
  by_cases shown : higher ≤ record.level
  · have lower : least ≤ record.level := Nat.le_trans levels shown
    simp [shown, lower]
  · simp [shown]

end Logger

end Log

end Bootstrap
