import Bootstrap.Ladder
import Bootstrap.Proofs.LoggerHistory

/-!
What the parts of a run leave in the log: remarks, each with the span that it stands in, and the
spans that have been open meanwhile. Every part leaves the stack of spans as it found it, so the
remarks and the number of spans account for the whole logger.
-/

namespace Bootstrap

/-- A note in a log, with the generation whose construction it is about and the span it stands in. -/
structure Remark where
  about : Option Stage
  note : Note
  span : Option Nat
  deriving DecidableEq, Repr

structure Opening where
  about : Option Stage
  span : Log.Span
  deriving DecidableEq, Repr

structure Chronicle where
  remarks : List Remark
  openings : List Opening
  deriving DecidableEq, Repr

namespace Chronicle

def empty : Chronicle :=
  ⟨[], []⟩

def single (remark : Remark) : Chronicle :=
  ⟨[remark], []⟩

def inside (opening : Opening) (told : Chronicle) : Chronicle :=
  { told with openings := opening :: told.openings }

def append (told more : Chronicle) : Chronicle :=
  ⟨told.remarks ++ more.remarks, told.openings ++ more.openings⟩

instance : Append Chronicle :=
  ⟨append⟩

@[simp] theorem remarks_append (told more : Chronicle) :
    (told ++ more).remarks = told.remarks ++ more.remarks :=
  rfl

@[simp] theorem openings_append (told more : Chronicle) :
    (told ++ more).openings = told.openings ++ more.openings :=
  rfl

def remarksAbout (told : Chronicle) (stage : Stage) : List Remark :=
  told.remarks.filter fun remark => remark.about = some stage

def openingsAbout (told : Chronicle) (stage : Stage) : List Opening :=
  told.openings.filter fun opening => opening.about = some stage

@[simp] theorem remarksAbout_append (told more : Chronicle) (stage : Stage) :
    (told ++ more).remarksAbout stage = told.remarksAbout stage ++ more.remarksAbout stage :=
  List.filter_append _ _

@[simp] theorem openingsAbout_append (told more : Chronicle) (stage : Stage) :
    (told ++ more).openingsAbout stage = told.openingsAbout stage ++ more.openingsAbout stage :=
  List.filter_append _ _

@[simp] theorem remarksAbout_single (remark : Remark) (stage : Stage) :
    (single remark).remarksAbout stage = if remark.about = some stage then [remark] else [] := by
  by_cases same : remark.about = some stage <;> simp [single, remarksAbout, same]

@[simp] theorem openingsAbout_single (remark : Remark) (stage : Stage) :
    (single remark).openingsAbout stage = [] :=
  rfl

@[simp] theorem remarksAbout_inside (opening : Opening) (told : Chronicle) (stage : Stage) :
    (told.inside opening).remarksAbout stage = told.remarksAbout stage :=
  rfl

@[simp] theorem openingsAbout_inside (opening : Opening) (told : Chronicle) (stage : Stage) :
    (told.inside opening).openingsAbout stage =
      (if opening.about = some stage then [opening] else []) ++ told.openingsAbout stage := by
  by_cases same : opening.about = some stage <;> simp [inside, openingsAbout, same]

end Chronicle

namespace Log

namespace Logger

def tag? (logger : Logger) : Option Nat :=
  logger.spans.head?.map Span.number

def hear (logger : Logger) (remark : Remark) : Logger :=
  (if logger.isEnabled remark.note.level then
    let record : Record := ⟨logger.time, remark.note.level, remark.note.target,
      remark.note.message, remark.span⟩
    logger.sinks.foldl (fun current sink => current.deliver record sink) logger
  else logger).settled

def hearAll (logger : Logger) (remarks : List Remark) : Logger :=
  remarks.foldl hear logger

theorem hear_tag? (logger : Logger) (about : Option Stage) (note : Note) :
    logger.hear ⟨about, note, logger.tag?⟩ =
      (logger.log note.level note.target note.message).settled :=
  rfl

def withSpans (logger : Logger) (spans : List Span) (nextSpan : Nat) : Logger :=
  { logger with spans := spans, nextSpan := nextSpan }

theorem deliver_withSpans (logger : Logger) (spans : List Span) (nextSpan : Nat) (record : Record)
    (sink : Sink) : (logger.withSpans spans nextSpan).deliver record sink =
      (logger.deliver record sink).withSpans spans nextSpan := by
  cases sink <;> rfl

theorem deliverAll_withSpans (logger : Logger) (spans : List Span) (nextSpan : Nat)
    (record : Record) (sinks : List Sink) :
    sinks.foldl (fun current sink => current.deliver record sink)
        (logger.withSpans spans nextSpan) =
      (sinks.foldl (fun current sink => current.deliver record sink) logger).withSpans
        spans nextSpan := by
  induction sinks generalizing logger with
  | nil => rfl
  | cons sink rest ih => rw [List.foldl_cons, List.foldl_cons, deliver_withSpans, ih]

theorem hear_withSpans (logger : Logger) (spans : List Span) (nextSpan : Nat) (remark : Remark) :
    (logger.withSpans spans nextSpan).hear remark =
      (logger.hear remark).withSpans spans nextSpan := by
  unfold hear
  by_cases enabled : logger.isEnabled remark.note.level = true
  · have same : (logger.withSpans spans nextSpan).isEnabled remark.note.level = true := enabled
    rw [if_pos enabled, if_pos same]
    exact congrArg settled (deliverAll_withSpans _ _ _ _ _)
  · have same : ¬ (logger.withSpans spans nextSpan).isEnabled remark.note.level = true := enabled
    rw [if_neg enabled, if_neg same]
    rfl

theorem hearAll_withSpans (logger : Logger) (spans : List Span) (nextSpan : Nat)
    (remarks : List Remark) :
    (logger.withSpans spans nextSpan).hearAll remarks =
      (logger.hearAll remarks).withSpans spans nextSpan := by
  induction remarks generalizing logger with
  | nil => rfl
  | cons remark rest ih =>
      rw [hearAll, List.foldl_cons, hear_withSpans]
      exact ih _

theorem hearAll_append (logger : Logger) (remarks more : List Remark) :
    logger.hearAll (remarks ++ more) = (logger.hearAll remarks).hearAll more :=
  List.foldl_append

end Logger

end Log

variable {World Engine Value α β : Type}

/-- What a collaborator has logged itself, in one of the actions that a run performs. -/
inductive Environment.Utters (env : Environment World Engine Value) (settings : Settings) :
    Note → Prop where
  | read {path : Path} {journal : Journal World} {world : World} {note : Note}
      (told : note ∈ (env.files.read path journal world).notes) : Utters env settings note
  | host {unit : SourceUnit} {journal : Journal World} {world : World} {note : Note}
      (told : note ∈ (env.host unit journal world).notes) : Utters env settings note
  | compiled {artifact : Artifact} {unit : SourceUnit} {journal : Journal World} {world : World}
      {note : Note}
      (told : note ∈ (Ladder.compilerOf env settings artifact unit journal world).notes) :
      Utters env settings note
  | attempt {artifact : Artifact} {test : TestCase} {journal : Journal World} {world : World}
      {note : Note}
      (told : note ∈ (Trial.attempt env.engines (Ladder.compilerOf env settings artifact)
        settings.toolchain test journal world).notes) : Utters env settings note
  | discover {journal : Journal World} {world : World} {note : Note}
      (told : note ∈ (Corpus.discover env.files settings.corpus journal world).notes) :
      Utters env settings note

/-- The log of a later session is that of an earlier one with what is told in between. -/
structure Session.Logs (env : Environment World Engine Value) (settings : Settings)
    (session : Session World) (told : Chronicle) (later : Session World) : Prop where
  logger : later.logger = (session.logger.hearAll told.remarks).withSpans session.logger.spans
    (session.logger.nextSpan + told.openings.length)
  /-- The spans in between have got the next numbers. -/
  numbers : told.openings.map (fun opening => opening.span.number) =
    List.range' session.logger.nextSpan told.openings.length
  tagged : ∀ remark ∈ told.remarks, remark.span = session.logger.tag? ∨
    ∃ opening ∈ told.openings, remark.span = some opening.span.number
  foreign : ∀ remark ∈ told.remarks, remark.about = none →
    remark.note.target ≠ Log.Target.stage ∨ env.Utters settings remark.note
  others : ∀ opening ∈ told.openings, opening.about = none → opening.span.name ≠ "build_stage"

namespace Session.Logs

variable {env : Environment World Engine Value} {settings : Settings}
  {session middle later : Session World} {told more : Chronicle}

theorem spans (logs : session.Logs env settings told later) :
    later.logger.spans = session.logger.spans := by
  rw [logs.logger]
  rfl

theorem nextSpan (logs : session.Logs env settings told later) :
    later.logger.nextSpan = session.logger.nextSpan + told.openings.length := by
  rw [logs.logger]
  rfl

theorem tag? (logs : session.Logs env settings told later) :
    later.logger.tag? = session.logger.tag? := by
  rw [Log.Logger.tag?, logs.spans]
  rfl

theorem congr {other : Session World} (logs : session.Logs env settings told later)
    (same : other.logger = later.logger) : session.Logs env settings told other :=
  { logs with logger := same.trans logs.logger }

theorem of_same (same : later.logger = session.logger) :
    session.Logs env settings .empty later where
  logger := same
  numbers := rfl
  tagged := by simp [Chronicle.empty]
  foreign := by simp [Chronicle.empty]
  others := by simp [Chronicle.empty]

theorem trans (left : session.Logs env settings told middle)
    (right : middle.Logs env settings more later) :
    session.Logs env settings (told ++ more) later where
  logger := by
    -- Remarks carry their spans with them, so they are heard alike whatever spans are open.
    rw [right.logger, left.logger, Log.Logger.hearAll_withSpans, Chronicle.remarks_append,
      Log.Logger.hearAll_append, Chronicle.openings_append, List.length_append, ← Nat.add_assoc]
    rfl
  numbers := by
    rw [Chronicle.openings_append, List.map_append, List.length_append, left.numbers,
      right.numbers, left.nextSpan, List.range'_append_1]
  tagged := by
    intro remark member
    rcases List.mem_append.mp member with first | second
    · rcases left.tagged remark first with outer | ⟨opening, opened, same⟩
      · exact .inl outer
      · exact .inr ⟨opening, List.mem_append_left _ opened, same⟩
    · rcases right.tagged remark second with outer | ⟨opening, opened, same⟩
      · exact .inl (outer.trans left.tag?)
      · exact .inr ⟨opening, List.mem_append_right _ opened, same⟩
  foreign := by
    intro remark member
    rcases List.mem_append.mp member with first | second
    · exact left.foreign remark first
    · exact right.foreign remark second
  others := by
    intro opening member
    rcases List.mem_append.mp member with first | second
    · exact left.others opening first
    · exact right.others opening second

theorem within {inner outer : Session World} {span : Log.Span} {about : Option Stage}
    (named : about = none → span.name ≠ "build_stage")
    (number : span.number = session.logger.nextSpan)
    (enter : inner.logger = session.logger.enter span.name)
    (logs : inner.Logs env settings told later) (leave : outer.logger = later.logger.leave) :
    session.Logs env settings (told.inside ⟨about, span⟩) outer where
  logger := by
    have entered : inner.logger = session.logger.withSpans
        (⟨session.logger.nextSpan, span.name⟩ :: session.logger.spans)
        (session.logger.nextSpan + 1) := enter
    rw [leave, logs.logger, entered, Log.Logger.hearAll_withSpans, Chronicle.inside,
      List.length_cons]
    have same : session.logger.nextSpan + 1 + told.openings.length =
        session.logger.nextSpan + (told.openings.length + 1) := by omega
    rw [← same]
    rfl
  numbers := by
    have next : inner.logger.nextSpan = session.logger.nextSpan + 1 := by rw [enter]; rfl
    rw [Chronicle.inside, List.map_cons, logs.numbers, List.length_cons, List.range'_succ, next,
      number]
  tagged := by
    intro remark member
    have top : inner.logger.tag? = some span.number := by rw [enter, number]; rfl
    right
    rcases logs.tagged remark member with own | ⟨opening, opened, same⟩
    · exact ⟨⟨about, span⟩, List.mem_cons_self, own.trans top⟩
    · exact ⟨opening, List.mem_cons_of_mem _ opened, same⟩
  foreign := logs.foreign
  others := by
    intro opening member
    rcases List.mem_cons.mp member with rfl | deeper
    · exact named
    · exact logs.others opening deeper

end Session.Logs

namespace Session

variable (env : Environment World Engine Value) (settings : Settings) (session : Session World)

omit settings in
theorem tag?_logged (note : Note) : (session.logged env note).logger.tag? = session.logger.tag? := by
  have same := session.logger.sameSpans_log note.level note.target note.message
  show (session.logger.log note.level note.target note.message).settled.tag? = _
  rw [Log.Logger.tag?, Log.Logger.settled, same.spans]
  rfl

theorem logs_logged (note : Note) (about : Option Stage)
    (foreign : about = none → note.target ≠ Log.Target.stage ∨ env.Utters settings note) :
    session.Logs env settings (.single ⟨about, note, session.logger.tag?⟩)
      (session.logged env note) where
  logger := by
    have same := session.logger.sameSpans_log note.level note.target note.message
    show (session.logger.log note.level note.target note.message).settled =
      (session.logger.hear ⟨about, note, session.logger.tag?⟩).withSpans _ _
    rw [Log.Logger.hear_tag?, ← same.spans, ← same.nextSpan]
    rfl
  numbers := rfl
  tagged := by simp [Chronicle.single]
  foreign := by simpa [Chronicle.single] using foreign
  others := by simp [Chronicle.single]

theorem hearAll_notes {logger : Log.Logger} {tag : Option Nat} (same : logger.tag? = tag)
    (notes : List Note) :
    logger.hearAll (notes.map fun note => ⟨none, note, tag⟩) =
        notes.foldl (fun logger note => (logger.log note.level note.target note.message).settled)
          logger ∧
      logger.SameSpans (logger.hearAll (notes.map fun note => ⟨none, note, tag⟩)) := by
  induction notes generalizing logger with
  | nil => exact ⟨rfl, .refl logger⟩
  | cons note rest ih =>
      subst same
      have settled : logger.SameSpans
          (logger.log note.level note.target note.message).settled :=
        (logger.sameSpans_log note.level note.target note.message).trans ⟨rfl, rfl, rfl⟩
      have still : (logger.log note.level note.target note.message).settled.tag? =
          logger.tag? := by rw [Log.Logger.tag?, settled.spans]; rfl
      obtain ⟨heard, kept⟩ := ih still
      exact ⟨heard, settled.trans kept⟩

theorem logs_after (reply : Reply World α)
    (utters : ∀ note ∈ reply.notes, env.Utters settings note) :
    session.Logs env settings
      ⟨reply.notes.map fun note => ⟨none, note, session.logger.tag?⟩, []⟩
      (session.after reply) where
  logger := by
    have own : session.logger.tag? = session.logger.tag? := rfl
    obtain ⟨heard, same⟩ := hearAll_notes own reply.notes
    have kept : (session.logger.hearAll (reply.notes.map fun note =>
        ⟨none, note, session.logger.tag?⟩)).withSpans session.logger.spans
          (session.logger.nextSpan + 0) = session.logger.hearAll (reply.notes.map fun note =>
        ⟨none, note, session.logger.tag?⟩) := by
      rw [Nat.add_zero, ← same.spans, ← same.nextSpan]
      rfl
    exact (kept.trans heard).symm
  numbers := rfl
  tagged := by simp
  foreign := by
    intro remark member _
    obtain ⟨note, uttered, rfl⟩ := List.mem_map.mp member
    exact .inr (utters note uttered)
  others := by simp

end Session

end Bootstrap
