import Bootstrap.Proofs.Interchange
import Bootstrap.Proofs.Listening
import Bootstrap.Proofs.Memo
import Bootstrap.Proofs.ReportStream
import Bootstrap.Proofs.Unobserved

/-!
The level of a log decides what is shown and nothing else: each run is compared with one that is
listened to at the lowest level, and its log is the part of what is heard there that its own level
lets through.
-/

namespace Bootstrap

section

variable {World Engine Value α β : Type}

namespace Environment.Unaware

variable {env : Environment World Engine Value} {Same : World → World → Prop}
  {InUse : Nat → Prop}

theorem flush (unaware : env.Unaware Same InUse) {logger : Log.Logger}
    (waiting : ∀ delivery ∈ logger.outbox, InUse delivery.1) (world : World) :
    Same (logger.flush env.append world).2 world := by
  unfold Log.Logger.flush
  dsimp only
  generalize logger.outbox = outbox at waiting
  induction outbox generalizing world with
  | nil => exact unaware.equivalence.refl world
  | cons delivery rest ih =>
      have later (current : World) := ih current
        fun other member => waiting other (List.mem_cons_of_mem _ member)
      exact unaware.equivalence.trans (later _)
        (unaware.append _ (waiting delivery List.mem_cons_self) _ world)

theorem spares (unaware : env.Unaware Same InUse) {session : Session World}
    (registered : ∀ handle, .file handle ∈ session.logger.sinks → InUse handle)
    (waiting : ∀ delivery ∈ session.logger.outbox, InUse delivery.1) :
    Journal.Spares Same (session.journal env) := by
  intro note world
  refine unaware.flush (fun delivery member => ?_) world
  rcases Log.Logger.outbox_log member with earlier | sink
  · exact waiting delivery earlier
  · exact registered _ sink

end Environment.Unaware

structure Comparison (World : Type) where
  Same : World → World → Prop
  InUse : Nat → Prop
  least : Log.Level
  index : Nat
  capacity : Nat

/-- A session that has come to the same as one that is listened to. -/
structure Session.Follows (comparison : Comparison World) (heard session : Session World) :
    Prop where
  world : comparison.Same heard.world session.world
  cells : heard.cells = session.cells
  entries : heard.entries = session.entries
  log : Log.Logger.Follows comparison.InUse comparison.least comparison.index comparison.capacity
    heard.logger session.logger

namespace Session.Follows

variable {env : Environment World Engine Value} {comparison : Comparison World}
  {heard session : Session World}

theorem logged (unaware : env.Unaware comparison.Same comparison.InUse)
    (follows : Follows comparison heard session) (note : Note) :
    Follows comparison (heard.logged env note) (session.logged env note) := by
  have log := follows.log.log note.level note.target note.message
  have quiet : comparison.Same
      ((heard.logger.log note.level note.target note.message).flush env.append heard.world).2
      heard.world := unaware.flush (by simp [log.listens.outbox]) heard.world
  have written := unaware.flush log.waiting session.world
  exact ⟨unaware.equivalence.trans quiet
    (unaware.equivalence.trans follows.world (unaware.equivalence.symm written)),
    follows.cells, follows.entries, log.settled⟩

theorem after (follows : Follows comparison heard session) {reply twin : Reply World α}
    (notes : reply.notes = twin.notes) (world : comparison.Same reply.world twin.world) :
    Follows comparison (heard.after reply) (session.after twin) := by
  refine ⟨world, follows.cells, follows.entries, ?_⟩
  unfold Session.after
  rw [notes]
  have log := follows.log
  generalize heard.logger = listener at log
  generalize session.logger = logger at log
  induction twin.notes generalizing listener logger with
  | nil => exact log
  | cons note rest ih => exact ih _ _ (log.log _ _ _).settled

end Session.Follows

/-- Two programs that start in sessions that are alike give answers that fit and end in sessions that
are alike. -/
def Run.Agrees (Alike : Session World → Session World → Prop) (Answers : α → α → Prop)
    (step twin : Run World α) : Prop :=
  ∀ heard session, Alike heard session →
    Answers (step heard).1 (twin session).1 ∧ Alike (step heard).2 (twin session).2

/-- The same step with the same answer, of which something may be known. -/
abbrev Run.Repeats (Alike : Session World → Session World → Prop) (Gives : α → Prop)
    (step : Run World α) : Prop :=
  Run.Agrees Alike (fun answer other => answer = other ∧ Gives answer) step step

namespace Run.Agrees

variable {Alike : Session World → Session World → Prop}

theorem bind {first second : Run World α} {next other : α → Run World β}
    {Middle : α → α → Prop} {Answers : β → β → Prop} (begins : Agrees Alike Middle first second)
    (goes : ∀ answer twin, Middle answer twin → Agrees Alike Answers (next answer) (other twin)) :
    Agrees Alike Answers (first >>= next) (second >>= other) := by
  intro heard session alike
  obtain ⟨fits, alikeThen⟩ := begins heard session alike
  exact goes _ _ fits _ _ alikeThen

theorem pure {Gives : α → Prop} {answer : α} (gives : Gives answer) :
    Repeats Alike Gives (Pure.pure answer) :=
  fun _ _ alike => ⟨⟨rfl, gives⟩, alike⟩

theorem next {Gives : α → Prop} {Final : β → Prop} {first : Run World α} {next : α → Run World β}
    (begins : Repeats Alike Gives first)
    (goes : ∀ answer, Gives answer → Repeats Alike Final (next answer)) :
    Repeats Alike Final (first >>= next) := by
  refine bind begins ?_
  rintro answer _ ⟨rfl, gives⟩
  exact goes answer gives

theorem look : Agrees Alike Alike (get : Run World (Session World)) get :=
  fun _ _ alike => ⟨alike, alike⟩

theorem change {update : Session World → Session World}
    (changes : ∀ heard session, Alike heard session → Alike (update heard) (update session)) :
    Repeats Alike (fun _ => True) (modify update : Run World PUnit) :=
  fun heard session alike => ⟨⟨rfl, trivial⟩, changes heard session alike⟩

end Run.Agrees

/-- A step that goes the same way whether or not it is listened to. -/
abbrev Run.Follows (comparison : Comparison World) (Gives : α → Prop) (step : Run World α) : Prop :=
  Run.Repeats (Session.Follows comparison) Gives step

section

variable {env : Environment World Engine Value} {comparison : Comparison World}

namespace Run.Follows

theorem push (entry : Entry) : Run.Follows comparison (fun _ => True) (Run.push entry) :=
  Run.Agrees.change fun _ _ follows =>
    { follows with entries := congrArg (· ++ [entry]) follows.entries }

theorem say (unaware : env.Unaware comparison.Same comparison.InUse) (level : Log.Level)
    (target message : String) :
    Run.Follows comparison (fun _ => True) (Run.say env level target message) :=
  Run.Agrees.change fun _ _ follows => follows.logged unaware _

theorem perform (unaware : env.Unaware comparison.Same comparison.InUse) {action : Act World α}
    (acts : Act.Unaware comparison.Same action) :
    Run.Follows comparison (fun _ => True) (Run.perform env action) := by
  intro heard session follows
  have quiet : Journal.Spares comparison.Same (heard.journal env) :=
    unaware.spares (by simp [follows.log.listens.sinks]) (by simp [follows.log.listens.outbox])
  have spares := unaware.spares follows.log.inUse follows.log.waiting
  obtain ⟨answer, notes, world⟩ := acts _ _ quiet spares _ _ follows.world
  exact ⟨⟨answer, trivial⟩, follows.after notes world⟩

theorem within {name : String} {step : Run World α} {Gives : α → Prop}
    (follows : Run.Follows comparison Gives step) :
    Run.Follows comparison Gives (Run.within name step) := by
  have enters : Run.Follows comparison (fun _ => True)
      (modify fun session : Session World =>
        { session with logger := session.logger.enter name }) :=
    Run.Agrees.change fun _ _ alike => { alike with log := alike.log.enter name }
  have leaves : Run.Follows comparison (fun _ => True)
      (modify fun session : Session World => { session with logger := session.logger.leave }) :=
    Run.Agrees.change fun _ _ alike => { alike with log := alike.log.leave }
  exact enters.next fun _ _ => follows.next fun _ gives => leaves.next fun _ _ => .pure gives

end Run.Follows

variable (unaware : env.Unaware comparison.Same comparison.InUse) (settings : Settings)
include unaware

namespace Ladder

omit unaware in
theorem memo_follows {stage : Stage} {construct : Run World (Except StageError Artifact)}
    (constructs : Run.Follows comparison (fun _ => True) construct) :
    Run.Follows comparison (fun _ => True) (memo stage construct) := by
  refine Run.Agrees.look.bind fun heard session alike => ?_
  rw [alike.cells]
  cases session.cells.built stage with
  | some result => exact .pure trivial
  | none =>
      refine constructs.next fun result _ => ?_
      refine Run.Agrees.next (Run.Agrees.change fun _ _ follows => ?_) fun _ _ => .pure trivial
      exact { follows with cells := congrArg (Cells.fill · stage result) follows.cells }

theorem compilerSource_follows (requester : Stage) :
    Run.Follows comparison (fun _ => True) (compilerSource env settings requester) := by
  refine Run.Agrees.look.bind fun heard session alike => ?_
  rw [alike.cells]
  cases session.cells.source with
  | some result => exact .pure trivial
  | none =>
      refine (Run.Follows.perform unaware (unaware.read _)).next fun content _ => ?_
      refine Run.Agrees.next (Run.Agrees.change fun _ _ follows => ?_) fun _ _ => .pure trivial
      exact { follows with cells := congrArg (Cells.fillSource · _) follows.cells }

theorem compileSource_follows (stage : Stage) (origin : Origin) {compiler : Compiler World}
    (compiles : ∀ unit, Act.Unaware comparison.Same (compiler unit)) :
    Run.Follows comparison (fun _ => True) (compileSource env settings stage origin compiler) := by
  refine (compilerSource_follows unaware settings stage).next fun found _ => ?_
  cases found with
  | error error => exact .pure trivial
  | ok source => exact (Run.Follows.perform unaware (compiles source)).next fun _ _ => .pure trivial

theorem constructFirst_follows :
    Run.Follows comparison (fun _ => True) (constructFirst env settings) := by
  unfold constructFirst
  split
  · refine (Run.Follows.say unaware _ _ _).next fun _ _ => ?_
    exact (Run.Follows.perform unaware (unaware.read _)).next fun _ _ => .pure trivial
  · exact compileSource_follows unaware settings _ _ unaware.host

theorem construct_follows (stage : Stage) {step : Run World (Except StageError Artifact)}
    (follows : Run.Follows comparison (fun _ => True) step) :
    Run.Follows comparison (fun _ => True) (construct env stage step) := by
  refine Run.Follows.within ((Run.Follows.say unaware _ _ _).next fun _ _ => ?_)
  refine follows.next fun result _ => ?_
  have announces : Run.Follows comparison (fun _ => True) (announce env result) := by
    cases result <;> exact Run.Follows.say unaware _ _ _
  exact announces.next fun _ _ => .pure trivial

theorem build_follows (stage : Stage) :
    Run.Follows comparison (fun _ => True) (build env settings stage) := by
  induction stage using Stage.ascend with
  | first =>
      exact memo_follows (construct_follows unaware _ (constructFirst_follows unaware settings))
  | next below stage above ih =>
      rw [build_next env settings above]
      refine memo_follows (construct_follows unaware _ (ih.next fun previous _ => ?_))
      cases previous with
      | error error => exact .pure trivial
      | ok artifact =>
          exact compileSource_follows unaware settings _ _ (unaware.compile _ _)

theorem compiler_follows (stage : Stage) :
    Run.Follows comparison
      (fun answer => ∀ compiler, answer = .ok compiler →
        ∀ unit, Act.Unaware comparison.Same (compiler unit))
      (Ladder.compiler env settings stage) := by
  refine (build_follows unaware settings stage).next fun built _ => ?_
  cases built with
  | error error => exact .pure (by simp)
  | ok artifact =>
      refine .pure fun compiler same => ?_
      cases same
      exact unaware.compile _ _

end Ladder

namespace Trials

def Candidate.Unaware (Same : World → World → Prop) (candidate : Candidate World) : Prop :=
  ∀ compiler, candidate.2 = .ok compiler → ∀ unit, Act.Unaware Same (compiler unit)

theorem prepare_follows (stage : Stage) :
    Run.Follows comparison (Candidate.Unaware comparison.Same) (prepare env settings stage) := by
  refine (Ladder.compiler_follows unaware settings stage).next fun built knows => ?_
  cases built with
  | error error => exact (Run.Follows.push _).next fun _ _ => .pure (by simp [Candidate.Unaware])
  | ok compiler =>
      refine .pure fun other same => ?_
      cases same
      exact knows _ rfl

theorem prepareAll_follows (stages : List Stage) :
    Run.Follows comparison
      (fun candidates => ∀ candidate ∈ candidates, candidate.Unaware comparison.Same)
      (prepareAll env settings stages) := by
  induction stages with
  | nil => exact .pure (by simp)
  | cons stage rest ih =>
      refine (prepare_follows unaware settings stage).next fun first known => ?_
      exact ih.next fun others knows => .pure (List.forall_mem_cons.mpr ⟨known, knows⟩)

theorem attempt_follows (test : TestCase) {candidate : Candidate World}
    (known : candidate.Unaware comparison.Same) :
    Run.Follows comparison (fun _ => True) (attempt env settings test candidate) := by
  have tried : Run.Follows comparison (fun _ => True) (outcome env settings test candidate.2) := by
    cases built : candidate.2 with
    | error diagnostic => exact .pure trivial
    | ok compiler => exact Run.Follows.perform unaware (unaware.attempt (known _ built) _ _)
  refine tried.next fun _ _ => ?_
  refine (Run.Follows.say unaware _ _ _).next fun _ _ => ?_
  exact (Run.Follows.push _).next fun _ _ => .pure trivial

theorem attemptAll_follows {trials : List (TestCase × Candidate World)}
    (known : ∀ trial ∈ trials, trial.2.Unaware comparison.Same) :
    Run.Follows comparison (fun _ => True) (attemptAll env settings trials) := by
  induction trials with
  | nil => exact .pure trivial
  | cons trial rest ih =>
      obtain ⟨first, others⟩ := List.forall_mem_cons.mp known
      refine (attempt_follows unaware settings trial.1 first).next fun _ _ => ?_
      exact (ih others).next fun _ _ => .pure trivial

theorem run_follows (tests : List TestCase) :
    Run.Follows comparison (fun _ => True) (run env settings tests) := by
  refine Run.Follows.within ((Run.Follows.say unaware _ _ _).next fun _ _ => ?_)
  refine (prepareAll_follows unaware settings _).next fun candidates knows => ?_
  have known : ∀ trial ∈ pairs tests candidates, trial.2.Unaware comparison.Same := by
    intro trial member
    obtain ⟨test, _, paired⟩ := List.mem_flatMap.mp member
    obtain ⟨candidate, listed, rfl⟩ := List.mem_map.mp paired
    exact knows candidate listed
  refine (attemptAll_follows unaware settings known).next fun _ _ => ?_
  exact (Run.Follows.say unaware _ _ _).next fun _ _ => .pure trivial

end Trials

namespace Fixpoint

omit settings in
theorem judge_follows (base next : Stage) (current again : Artifact) :
    Run.Follows comparison (fun _ => True) (judge env base next current again) := by
  unfold judge
  cases Mismatch.compare? base next current.bytes again.bytes <;>
    exact (Run.Follows.say unaware _ _ _).next fun _ _ => .pure trivial

theorem compare_follows (base next : Stage) :
    Run.Follows comparison (fun _ => True) (compare env settings base next) := by
  refine (Run.Follows.say unaware _ _ _).next fun _ _ => ?_
  refine (Ladder.build_follows unaware settings base).next fun lower _ => ?_
  cases lower with
  | error error => exact .pure trivial
  | ok current =>
      refine (Ladder.build_follows unaware settings next).next fun upper _ => ?_
      cases upper with
      | error error => exact .pure trivial
      | ok again => exact judge_follows unaware base next current again

theorem verify_follows (selection : Selection) :
    Run.Follows comparison (fun _ => True) (verify env settings selection) := by
  unfold verify
  split
  · split
    · exact .pure trivial
    · exact Run.Follows.within (compare_follows unaware settings _ _)
  · exact .pure trivial

end Fixpoint

namespace Verification

omit settings in
theorem tellFilter_follows (filter : Option String) (count : Nat) :
    Run.Follows comparison (fun _ => True) (tellFilter env filter count) := by
  cases filter with
  | none => exact .pure trivial
  | some text => exact Run.Follows.say unaware _ _ _

theorem opening_follows (filter : Option String) (tests : List TestCase) :
    Run.Follows comparison (fun _ => True) (opening env settings filter tests) := by
  refine (tellFilter_follows unaware filter _).next fun _ _ => ?_
  dsimp only
  split
  · exact (Run.Follows.say unaware _ _ _).next fun _ _ => Run.Follows.push _
  · exact Run.Follows.push _

theorem closing_follows (trials : TrialReport) (checked : Except RunError Convergence) :
    Run.Follows comparison (fun _ => True) (closing env trials checked) := by
  cases checked with
  | error error => exact .pure trivial
  | ok proof =>
      refine (Run.Follows.push _).next fun _ _ => ?_
      exact (Run.Follows.say unaware _ _ _).next fun _ _ => .pure trivial

theorem trying_follows (filter : Option String) (tests : List TestCase) :
    Run.Follows comparison (fun _ => True) (trying env settings filter tests) := by
  refine (opening_follows unaware settings filter tests).next fun _ _ => ?_
  refine (Trials.run_follows unaware settings tests).next fun trials _ => ?_
  refine (Fixpoint.verify_follows unaware settings _).next fun checked _ => ?_
  exact closing_follows unaware trials checked

theorem run_follows (filter : Option String) :
    Run.Follows comparison (fun _ => True) (run env settings filter) := by
  refine (Run.Follows.say unaware _ _ _).next fun _ _ => ?_
  refine (Run.Follows.perform unaware (unaware.discover _)).next fun found _ => ?_
  cases found with
  | error error => exact .pure trivial
  | crash => exact .pure trivial
  | ok cases =>
      dsimp only
      rw [trying_eq]
      exact (trying_follows unaware settings filter _).next fun _ _ => .pure trivial

end Verification

end

namespace Verification

variable {env : Environment World Engine Value} {Same : World → World → Prop}
  {InUse : Nat → Prop} (unaware : env.Unaware Same InUse) (settings : Settings)
include unaware

theorem run_heard (filter : Option String) (world : World) {logger : Log.Logger}
    (ready : logger.Ready InUse) {capacity : Nat}
    (room : (run env settings filter (.start world logger.listener)).2.logger.console.length ≤
      capacity) :
    ∃ session ring,
      run env settings filter (.start world (logger.addRing capacity)) =
        ((run env settings filter (.start world logger.listener)).1, session) ∧
      session.entries = (run env settings filter (.start world logger.listener)).2.entries ∧
      session.logger.rings[logger.rings.length]? = some ring ∧ ring.dropped = 0 ∧
      ring.records.map Log.Record.timeless =
        ((run env settings filter (.start world logger.listener)).2.logger.console.filter
          fun record => decide (logger.level ≤ record.level)).map Log.Record.timeless := by
  let comparison : Comparison World :=
    ⟨Same, InUse, logger.level, logger.rings.length, capacity⟩
  have started : Session.Follows comparison (.start world logger.listener)
      (.start world (logger.addRing capacity)) :=
    ⟨unaware.equivalence.refl world, rfl, rfl, ready.follows capacity⟩
  have known : env.Unaware comparison.Same comparison.InUse := unaware
  obtain ⟨⟨same, -⟩, ended⟩ := run_follows known settings filter _ _ started
  generalize run env settings filter (.start world logger.listener) = heard at room same ended ⊢
  generalize run env settings filter (.start world (logger.addRing capacity)) = ran at same ended ⊢
  obtain ⟨answer, session⟩ := ran
  obtain ⟨ring, present, dropped, records⟩ := ended.log.seen room
  exact ⟨session, ring, congrArg (·, session) same.symm, ended.entries.symm, present, dropped,
    records⟩

/-- The level of the log changes neither how a run ends nor what it reports; at a higher level a
ring with room enough sees the records of that level and above, and no others. -/
theorem run_at_levels (filter : Option String) (world : World) {lower higher : Log.Logger}
    (lowerReady : lower.Ready InUse) (higherReady : higher.Ready InUse)
    (levels : lower.level ≤ higher.level) (spans : lower.spans = higher.spans)
    (nextSpan : lower.nextSpan = higher.nextSpan) :
    ∃ enough, ∀ capacity other, enough ≤ capacity → enough ≤ other →
      ∃ answer session twin full part,
        run env settings filter (.start world (lower.addRing capacity)) = (answer, session) ∧
        run env settings filter (.start world (higher.addRing other)) = (answer, twin) ∧
        session.entries = twin.entries ∧
        session.logger.rings[lower.rings.length]? = some full ∧ full.dropped = 0 ∧
        twin.logger.rings[higher.rings.length]? = some part ∧ part.dropped = 0 ∧
        part.records.map Log.Record.timeless =
          (full.records.filter fun record => decide (higher.level ≤ record.level)).map
            Log.Record.timeless := by
  have same : higher.listener = lower.listener := by
    simp only [Log.Logger.listener, spans, nextSpan]
  refine ⟨(run env settings filter (.start world lower.listener)).2.logger.console.length, ?_⟩
  intro capacity other room otherRoom
  obtain ⟨session, full, ran, entries, present, dropped, seen⟩ :=
    run_heard unaware settings filter world lowerReady room
  obtain ⟨twin, part, twinRan, twinEntries, twinPresent, twinDropped, twinSeen⟩ :=
    run_heard unaware settings filter world higherReady (same ▸ otherRoom)
  rw [same] at twinRan twinEntries twinSeen
  exact ⟨_, session, twin, full, part, ran, twinRan, entries.trans twinEntries.symm, present,
    dropped, twinPresent, twinDropped,
    twinSeen.trans (Log.Logger.filter_timeless full.records levels seen).symm⟩

end Verification

end

namespace Toy

theorem unaware (hostFailure : Option String) (unavailable : Bool) :
    (environment hostFailure unavailable).Unaware Eq fun _ => True :=
  Environment.unaware_eq _ fun _ _ _ _ => rfl

def talkative : Log.Logger :=
  .new .trace 0

def reserved : Log.Logger :=
  (Log.Logger.new .warn 7).addSink (.file 3)

theorem numbered_at_levels :
    talkative.Ready (fun _ => True) ∧ reserved.Ready (fun _ => True) ∧
      talkative.level ≤ reserved.level ∧
      ∃ enough, ∀ capacity other, enough ≤ capacity → enough ≤ other →
        ∃ answer session twin full part,
          Verification.run (environment none false) .default none
              (.start (World.start numbered []) (talkative.addRing capacity)) =
            (answer, session) ∧
          Verification.run (environment none false) .default none
              (.start (World.start numbered []) (reserved.addRing other)) = (answer, twin) ∧
          session.entries = twin.entries ∧
          session.logger.rings[0]? = some full ∧ full.dropped = 0 ∧
          twin.logger.rings[0]? = some part ∧ part.dropped = 0 ∧
          part.records.map Log.Record.timeless =
            (full.records.filter fun record => decide (Log.Level.warn ≤ record.level)).map
              Log.Record.timeless := by
  have lowerReady : talkative.Ready fun _ => True := ⟨by decide, by simp, by simp⟩
  have higherReady : reserved.Ready fun _ => True := ⟨by decide, by simp, by simp⟩
  have levels : talkative.level ≤ reserved.level := by decide
  exact ⟨lowerReady, higherReady, levels,
    Verification.run_at_levels (unaware none false) .default none (World.start numbered [])
      lowerReady higherReady levels rfl rfl⟩

end Toy

end Bootstrap
