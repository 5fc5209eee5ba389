import Bootstrap.Proofs.Counting
import Bootstrap.Proofs.Isolation

/-!
Nothing is built twice: what a session has once built, or failed to build, stays in its cell, and the
counters of the toy tools show nothing that the requests so far did not need.
-/

namespace Bootstrap

section

variable {World Engine Value : Type} (env : Environment World Engine Value) (settings : Settings)

theorem Request.serve_extends (request : Request) (account : Account) :
    Run.Always Engine account (request.serve env settings)
      fun _ after => account.cells.Extends after.cells := by
  cases request with
  | build stage =>
      refine (Ladder.build_grows env settings stage account).bind fun _ after grown => ?_
      exact Run.Takes.pure grown.1.cells
  | compiler stage =>
      refine Run.Takes.bind (Ladder.compiler_grows env settings stage account) fun _ after grown => ?_
      exact Run.Takes.pure grown.1.cells
  | trials tests =>
      refine (Trials.run_tells env settings tests account).bind fun _ after told => ?_
      exact Run.Takes.pure told.2.cells
  | fixpoint selection =>
      refine (Fixpoint.verify_grows env settings selection account).bind fun _ after grows => ?_
      exact Run.Takes.pure grows.cells

theorem Call.serveAll_extends (calls : List (Call World)) (account : Account) :
    Run.Always Engine account (serveAll env settings calls)
      fun _ after => account.cells.Extends after.cells := by
  induction calls generalizing account with
  | nil => exact Run.Takes.pure (Cells.Extends.refl _)
  | cons call rest ih =>
      cases call with
      | meanwhile change =>
          refine Run.Takes.bind (Run.Takes.change account fun _ shows =>
            ⟨shows.1, shows.2.1, trivial⟩) ?_
          rintro _ _ rfl
          exact ih _
      | request asked =>
          refine (asked.serve_extends env settings account).bind fun _ middle extend => ?_
          refine (ih middle).bind fun _ after further => ?_
          exact Run.Takes.pure (extend.trans further)

/-- What a session has once built, or failed to build, it never builds again. -/
theorem Call.never_again {session : Session World} {stage : Stage}
    {result : Except StageError Artifact} (known : session.cells.built stage = some result)
    (later : List (Call World)) :
    Ladder.build env settings stage (serveAll env settings later session).2 =
      (result, (serveAll env settings later session).2) := by
  obtain ⟨after, extend, cells, _⟩ := serveAll_extends env settings later _ _ (AnyWorld.shows session)
  refine Ladder.build_known env settings ?_
  rw [cells]
  exact extend stage result known

end

namespace Toy

/-- Worlds whose record is true and whose counters agree with it. -/
structure Tallied (start : World) (world : World × List Event) (ledger : Ledger Engine Engine) :
    Prop where
  record : world.2 = ledger.events
  same : ∀ pair ∈ ledger.live, pair.1 = pair.2
  hosts : world.1.hostCalls = start.hostCalls + ledger.events.countP Event.isHost
  engines : world.1.instantiations = start.instantiations + ledger.events.countP Event.isEngine

namespace Tallied

variable {start : World} {world after : World × List Event} {ledger : Ledger Engine Engine}

theorem add (tallied : Tallied start world ledger) {events : List Event}
    (record : after.2 = world.2 ++ events)
    (hosts : after.1.hostCalls = world.1.hostCalls + events.countP Event.isHost)
    (engines : after.1.instantiations = world.1.instantiations + events.countP Event.isEngine) :
    Tallied start after (ledger.add events) where
  record := by rw [record, tallied.record]; rfl
  same := tallied.same
  hosts := by
    rw [hosts, tallied.hosts, Nat.add_assoc]
    exact congrArg (start.hostCalls + ·) List.countP_append.symm
  engines := by
    rw [engines, tallied.engines, Nat.add_assoc]
    exact congrArg (start.instantiations + ·) List.countP_append.symm

theorem hold (tallied : Tallied start world ledger) (engine : Engine) :
    Tallied start world (ledger.hold engine engine) :=
  { tallied with
    same := by
      intro pair member
      rcases List.mem_cons.mp member with rfl | later
      · rfl
      · exact tallied.same pair later }

theorem head {engine state : Engine} (tallied : Tallied start world (ledger.hold engine state)) :
    engine = state :=
  tallied.same _ List.mem_cons_self

theorem release {engine state : Engine}
    (tallied : Tallied start world (ledger.hold engine state)) : Tallied start world ledger :=
  { tallied with
    same := fun pair member => tallied.same pair (List.mem_cons_of_mem _ member) }

theorem unasked (tallied : Tallied start world ledger) :
    Tallied start (world.1, world.2 ++ []) ledger := by
  rw [List.append_nil]
  exact tallied

end Tallied

def Readable (_ : Path) (_ : Except FileError Bytes) : Prop :=
  True

theorem tallied_deterministic (hostFailure : Option String) (start : World) :
    Deterministic (environment hostFailure false).recorded (oracle hostFailure false) Readable
      (Tallied start) where
  logsApart := fun _ _ _ _ tallied => tallied
  read := fun path ledger _ _ world tallied =>
    ⟨ledger.add _, ⟨trivial, rfl⟩, tallied.add rfl rfl rfl⟩
  host := fun unit ledger _ _ world tallied =>
    ⟨ledger.add [.host unit], ⟨rfl, rfl⟩, tallied.add rfl rfl rfl⟩
  instantiate := by
    intro ledger _ _ world tallied
    exact ⟨(ledger.add [.engine]).hold Engine.fresh Engine.fresh, ⟨Engine.fresh, rfl, rfl⟩,
      (tallied.add rfl rfl rfl).hold Engine.fresh⟩
  bindInput := by
    rintro input engine state world ledger tallied
    obtain rfl := tallied.head
    exact tallied.release.hold _
  clearOutput := by
    rintro engine state world ledger tallied
    obtain rfl := tallied.head
    exact tallied.release.hold _
  output := by
    rintro engine state world ledger tallied
    obtain rfl := tallied.head
    rfl
  marshal := fun _ _ _ _ _ _ => rfl
  load := by
    rintro module engine state ledger _ _ world tallied
    obtain rfl := tallied.head
    exact ⟨_, ⟨rfl, rfl⟩, (tallied.release.hold _).unasked⟩
  invoke := by
    rintro exportName engine state ledger _ _ world tallied
    obtain rfl := tallied.head
    exact ⟨_, ⟨rfl, rfl⟩, (tallied.release.hold _).unasked⟩
  release := by
    rintro engine state ledger _ _ world tallied
    exact ⟨ledger, rfl, tallied.release.unasked⟩

/-- Whoever changes a world between requests leaves the counters of the tools alone. -/
def Uncounting : Call World → Prop
  | .request _ => True
  | .meanwhile change => ∀ world,
      (change world).hostCalls = world.hostCalls ∧
        (change world).instantiations = world.instantiations

theorem Uncounting.keeps {call : Call World} (uncounting : Uncounting call) (start : World) :
    call.recorded.Keeps (Tallied start) := by
  cases call with
  | request asked => trivial
  | meanwhile change =>
      intro world ledger tallied
      obtain ⟨hosts, engines⟩ := uncounting world.1
      exact ⟨tallied.record, tallied.same, hosts.trans tallied.hosts, engines.trans tallied.engines⟩

def basis (hostFailure : Option String) (settings : Settings) : Basis Engine Value :=
  ⟨oracle hostFailure false, settings⟩

theorem serveAll_shows (hostFailure : Option String) (settings : Settings)
    (calls : List (Call World)) (uncounting : ∀ call ∈ calls, Uncounting call) (world : World)
    (logger : Log.Logger) :
    ∃ reading responses final,
      Call.serveAll (environment hostFailure false).recorded settings (calls.map Call.recorded)
        (.start (world, []) logger) = (responses, final) ∧
      responses = (Call.requests calls).map
        ((basis hostFailure settings).answer (environment hostFailure false).recorded reading) ∧
      final.cells = (basis hostFailure settings).cells reading
        ((basis hostFailure settings).reachAll 0 reading (Call.requests calls)) ∧
      Tallied world final.world
        (.opened ((basis hostFailure settings).askedAll 0 reading (Call.requests calls))) := by
  have deterministic : Deterministic (environment hostFailure false).recorded
      (basis hostFailure settings).oracle Readable (Tallied world) :=
    tallied_deterministic hostFailure world
  have keeps : ∀ call ∈ calls.map Call.recorded, call.Keeps (Tallied world) := by
    intro call member
    obtain ⟨original, present, rfl⟩ := List.mem_map.mp member
    exact (uncounting original present).keeps world
  have shows : (Session.start (world, []) logger).Shows (Tallied world)
      ⟨(basis hostFailure settings).cells ⟨.ok [], .ok []⟩ 0, [], []⟩ :=
    ⟨(Basis.cells_zero _ _).symm, rfl, rfl, by simp [Ledger.opened], rfl, rfl⟩
  obtain ⟨_, ⟨reading, _, _, answered, rfl⟩, cells, _, tallied⟩ :=
    Call.serveAll_leads deterministic (calls.map Call.recorded) keeps ⟨.ok [], .ok []⟩ 0 [] []
      ⟨trivial, trivial⟩ _ shows
  rw [Call.requests_recorded] at answered cells tallied
  dsimp only at tallied
  rw [List.nil_append] at tallied
  exact ⟨reading, _, _, rfl, answered, cells, tallied⟩

theorem serveAll_once (hostFailure : Option String) (settings : Settings)
    (calls : List (Call World)) (uncounting : ∀ call ∈ calls, Uncounting call) (world : World)
    (logger : Log.Logger) :
    ∃ responses final,
      Call.serveAll (environment hostFailure false).recorded settings (calls.map Call.recorded)
        (.start (world, []) logger) = (responses, final) ∧
      final.world.1.hostCalls ≤ world.hostCalls + 1 ∧
      (settings.selection.useSnapshot = true → final.world.1.hostCalls = world.hostCalls) ∧
      (∃ snapshot source, (Event.reads final.world.2).Sublist
        [.read settings.locations.snapshot snapshot,
          .read settings.locations.compilerSource source]) ∧
      (∀ stage, (Call.requests calls).any (Request.wants settings stage) = true →
        final.cells.canCompile stage = true → (final.cells.built stage).isSome = true) ∧
      (∀ stage result, final.cells.built stage = some result → ∀ later,
        let last := (Call.serveAll (environment hostFailure false).recorded settings later final).2
        Ladder.build (environment hostFailure false).recorded settings stage last = (result, last)) ∧
      final.world.1.instantiations = world.instantiations +
        Stage.all.countP (fun stage =>
          (Call.requests calls).any (Request.wants settings stage) &&
            final.cells.canCompile stage) +
        2 * (responses.flatMap Response.attempts).countP
          fun attempt => final.cells.hasBuilt attempt.stage := by
  obtain ⟨reading, responses, final, served, rfl, cells, tallied⟩ :=
    serveAll_shows hostFailure settings calls uncounting world logger
  have hosts := (basis hostFailure settings).hosts_askedAll reading (Call.requests calls)
  refine ⟨_, final, served, ?_, ?_, ?_, ?_, ?_, ?_⟩
  · rw [tallied.hosts]
    exact Nat.add_le_add_left hosts.1 _
  · intro uses
    rw [tallied.hosts]
    exact congrArg (world.hostCalls + ·) (hosts.2 uses)
  · refine ⟨reading.snapshot, reading.source, ?_⟩
    rw [tallied.record]
    exact (basis hostFailure settings).reads_askedAll_sublist reading (Call.requests calls)
  · intro stage wanted compilable
    rw [cells] at compilable ⊢
    exact (basis hostFailure settings).isSome_cells_of_wants reading rfl wanted compilable
  · intro stage result known later
    exact Call.never_again _ settings known later
  · have available : (basis hostFailure settings).oracle.instantiate = .ok Engine.fresh := rfl
    rw [tallied.engines, cells, Nat.add_assoc]
    exact congrArg (world.instantiations + ·)
      ((basis hostFailure settings).engines_askedAll reading
        (environment hostFailure false).recorded available rfl)

def busy : List (Call World) :=
  [.request (.fixpoint .default), .meanwhile fun world => { world with files := .ofList [] },
    .request (.trials [truth, broken]), .request (.compiler .stage3)]

def afterBusy : List (Response (World × List Event)) × Session (World × List Event) :=
  Call.serveAll (environment none false).recorded .default (busy.map Call.recorded)
    (.start (World.start compilerOnly [], []) (Log.Logger.new .info 0))

theorem busy_once :
    ∃ responses final, afterBusy = (responses, final) ∧ final.world.1.hostCalls ≤ 1 ∧
      final.world.1.instantiations = 15 := by
  obtain ⟨responses, final, served, hosts, _, _, _, _, engines⟩ :=
    serveAll_once none .default busy (by simp [busy, Uncounting]) (World.start compilerOnly [])
      (Log.Logger.new .info 0)
  have ended : afterBusy = (responses, final) := served
  have counts : Stage.all.countP (fun stage =>
        (Call.requests busy).any (Request.wants .default stage) &&
          afterBusy.2.cells.canCompile stage) = 3 ∧
      (afterBusy.1.flatMap Response.attempts).countP
        (fun attempt => afterBusy.2.cells.hasBuilt attempt.stage) = 6 := by
    decide +kernel
  rw [ended] at counts
  rw [counts.1, counts.2] at engines
  exact ⟨responses, final, ended, hosts, engines⟩

end Toy

end Bootstrap
