import Bootstrap.Proofs.DiskChanges
import Bootstrap.Proofs.EngineUse

/-!
What an engine leaves as it was, however it is used and whatever is logged meanwhile: directories,
devices that are not its result, and log files.
-/

namespace Bootstrap

namespace External

def LogsTo (isLog : Nat → Prop) (journal : Journal World) : Prop :=
  ∀ note world, Disk.Logged isLog world.disk (journal note world).disk

theorem journalOf_logsTo (logger : Log.Logger) :
    LogsTo (fun handle => .file handle ∈ logger.sinks) (journalOf logger) := by
  intro note world
  apply journalOf_induction (fun current =>
    Disk.Logged (fun handle => .file handle ∈ logger.sinks) world.disk current.disk) note (.refl _)
  intro handle line current registered logged
  exact logged.trans (Disk.logged_append _ registered _)

/-- Everything is as it was, but for a regular file at the path of the result. -/
structure LeavesResult (path : Path) (before after : Disk) : Prop where
  here : after.here = before.here
  elsewhere : ∀ location, before.locate path ≠ .ok location →
    after.node? location = before.node? location
  result : ∀ location, before.locate path = .ok location →
    after.node? location = before.node? location ∨
      before.node? location ≠ some .directory ∧
        ∃ number content, after.node? location = some (.file number content)
  nextNumber : before.nextNumber ≤ after.nextNumber
  numbered : before.Numbered → after.Numbered

theorem LeavesResult.akin {path : Path} {before after : Disk}
    (leaves : LeavesResult path before after) : Disk.Akin path before after := by
  refine ⟨leaves.here, ?_, ?_⟩
  · intro location
    by_cases there : before.locate path = .ok location
    · rcases leaves.result location there with same | ⟨free, number, content, found⟩
      · rw [same]
      · simp [found, free]
    · rw [leaves.elsewhere location there]
  · intro location elsewhere
    rw [leaves.elsewhere location elsewhere]

/-- The runner writes nothing but its result, and moves no other file. -/
def WritesResult (tools : Tools) (runner : Runner) : Prop :=
  ∀ (number : Nat) (exportName : String) (input : Option Nat) (disk : Disk) (finish : Finish),
    disk.Numbered →
    tools (runner.command.filled (runnerValues exportName (Engine.numbered runner number))) input
      disk = .finished finish →
    LeavesResult (Engine.numbered runner number).resultPath disk finish.disk

/-- The log files are open, and none of them is an engine's module or input. -/
structure Fit (isLog : Nat → Prop) (runner : Runner) (number : Nat) (disk : Disk) : Prop where
  numbered : disk.Numbered
  opened : ∀ handle, isLog handle → handle < disk.nextNumber
  apart : ∀ path ∈ (Engine.numbered runner number).paths,
    path ≠ (Engine.numbered runner number).resultPath →
    ∀ location handle content, disk.locate path = .ok location →
      disk.node? location = some (.file handle content) → ¬isLog handle

section keeping

variable {isLog : Nat → Prop} {runner : Runner} {number : Nat} {before after : Disk}

theorem Fit.step (fit : Fit isLog runner number before)
    (akin : Disk.Akin (Engine.numbered runner number).resultPath before after)
    (numbered : after.Numbered) (next : before.nextNumber ≤ after.nextNumber)
    (stays : ∀ path ∈ (Engine.numbered runner number).paths,
      path ≠ (Engine.numbered runner number).resultPath →
      ∀ location handle content, before.locate path = .ok location →
        after.node? location = some (.file handle content) → isLog handle →
        ∃ present, before.node? location = some (.file handle present)) :
    Fit isLog runner number after ∧
      Disk.Akin (Engine.numbered runner number).resultPath before after := by
  have opened (handle : Nat) (known : isLog handle) : handle < after.nextNumber :=
    Nat.lt_of_lt_of_le (fit.opened handle known) next
  refine ⟨⟨numbered, opened, ?_⟩, akin⟩
  intro path own notResult location handle content located found known
  have locatedToo := (akin.locate_ok_iff path location).mp located
  obtain ⟨present, there⟩ := stays path own notResult location handle content locatedToo found known
  exact fit.apart path own notResult location handle present locatedToo there known

theorem Fit.logged (fit : Fit isLog runner number before)
    (logged : Disk.Logged isLog before after) :
    Fit isLog runner number after ∧
      Disk.Akin (Engine.numbered runner number).resultPath before after := by
  refine fit.step (logged.akin _) (logged.numbered fit.numbered) logged.nextNumber.ge ?_
  intro path own notResult location handle content located found known
  rcases logged.node? location with same | ⟨present, old, new, -, there, changed⟩
  · exact ⟨content, same ▸ found⟩
  · rw [changed] at found
    obtain ⟨rfl, -⟩ := Node.file.inj (Option.some.inj found)
    exact ⟨old, there⟩

theorem Fit.write (fit : Fit isLog runner number before) {target : Path} {content : Bytes}
    (done : before.write target content = .ok after) : Fit isLog runner number after ∧
      Disk.Akin (Engine.numbered runner number).resultPath before after := by
  obtain ⟨location, -, -, puts⟩ := Disk.write_eq_ok_iff.mp done
  refine fit.step (Disk.write_akin done) (Disk.write_numbered fit.numbered done)
    puts.nextNumber_le ?_
  intro path own notResult place handle present located found known
  by_cases same : place = location
  · subst same
    rcases puts.there with ⟨-, there⟩ | ⟨new, there, old⟩
    · simp [there] at found
    · rw [there] at found
      obtain ⟨rfl, -⟩ := Node.file.inj (Option.some.inj found)
      -- A new file has the next number, and those of log files are lower.
      rcases old with ⟨-, rfl⟩ | old
      · exact absurd (fit.opened _ known) (Nat.lt_irrefl _)
      · exact old
  · rw [puts.elsewhere same] at found
    exact ⟨present, found⟩

theorem Fit.remove (fit : Fit isLog runner number before)
    (done : before.remove (Engine.numbered runner number).resultPath = .ok after) :
    Fit isLog runner number after ∧
      Disk.Akin (Engine.numbered runner number).resultPath before after := by
  have akin := Disk.remove_akin done
  obtain ⟨location, -, -, -, -, -, rfl⟩ := Disk.remove_eq_ok_iff.mp done
  refine fit.step akin fit.numbered.discard (Nat.le_refl _) ?_
  intro path own notResult place handle content _ there known
  rw [Disk.node?_discard] at there
  split at there
  · cases there
  · exact ⟨content, there⟩

theorem locate_ne {disk : Disk} {path other : Path}
    (own : path ∈ (Engine.numbered runner number).paths)
    (ownToo : other ∈ (Engine.numbered runner number).paths) (differs : path ≠ other)
    {location : Location} (located : disk.locate path = .ok location) :
    disk.locate other ≠ .ok location := by
  intro locatedToo
  rw [paths_numbered] at own ownToo
  obtain ⟨ending, known, rfl⟩ := List.mem_map.mp own
  obtain ⟨final, knownToo, rfl⟩ := List.mem_map.mp ownToo
  rw [locate_scratchPath disk runner number known] at located
  rw [locate_scratchPath disk runner number knownToo] at locatedToo
  cases entered : disk.entrance runner.workDir with
  | error error => simp [entered, Except.map] at located
  | ok directory =>
      rw [entered] at located locatedToo
      have names := Except.ok.inj (located.trans locatedToo.symm)
      rw [List.append_cancel_left_eq, List.cons.injEq] at names
      obtain ⟨-, rfl⟩ := fileName_inj known knownToo names.1
      exact differs rfl

theorem Fit.launch (fit : Fit isLog runner number before)
    (leaves : LeavesResult (Engine.numbered runner number).resultPath before after) :
    Fit isLog runner number after ∧
      Disk.Akin (Engine.numbered runner number).resultPath before after := by
  refine fit.step leaves.akin (leaves.numbered fit.numbered) leaves.nextNumber ?_
  intro path own notResult location handle content located found known
  -- The place is not the one of the result, where alone the runner may have written.
  have elsewhere := locate_ne own (by simp [Engine.paths]) notResult located
  rw [leaves.elsewhere location elsewhere] at found
  exact ⟨content, found⟩

end keeping

/-- Whatever is logged, an engine's surroundings stay as they are, and the answer is as told. -/
def Safe {α : Type} (isLog : Nat → Prop) (runner : Runner) (number : Nat) (holds : α → Prop)
    (action : Act World α) : Prop :=
  ∀ journal, LogsTo isLog journal → ∀ world, Fit isLog runner number world.disk →
    holds (action journal world).answer ∧
      Fit isLog runner number (action journal world).world.disk ∧
      Disk.Akin (Engine.numbered runner number).resultPath world.disk
        (action journal world).world.disk

section actions

variable {α β : Type} {isLog : Nat → Prop} {tools : Tools} {runner : Runner} {number : Nat}
  {engine : Engine} {holds : α → Prop} {final : β → Prop}

theorem Safe.pure {answer : α} (there : holds answer) :
    Safe isLog runner number holds (Pure.pure answer) :=
  fun _ _ world fit => ⟨there, fit, .refl world.disk⟩

theorem Safe.look (answer : Disk → α) :
    Safe isLog runner number (fun _ => True) (World.look answer) :=
  fun _ _ world fit => ⟨trivial, fit, .refl world.disk⟩

theorem Safe.note (level : Log.Level) (target message : String) :
    Safe isLog runner number (fun _ => True) (Act.note level target message) :=
  fun _ logs world fit => ⟨trivial, fit.logged (logs ⟨level, target, message⟩ world)⟩

theorem Safe.bind {action : Act World α} {next : α → Act World β}
    (safe : Safe isLog runner number holds action)
    (rest : ∀ answer, holds answer → Safe isLog runner number final (next answer)) :
    Safe isLog runner number final (action >>= next) := by
  intro journal logs world fit
  obtain ⟨there, fitToo, akin⟩ := safe journal logs world fit
  obtain ⟨ends, fitLast, akinToo⟩ := rest _ there journal logs _ fitToo
  exact ⟨ends, fitLast, akin.trans akinToo⟩

theorem Safe.attempt {step : Disk → Except OsError Disk}
    (keeps : ∀ before after, Fit isLog runner number before → step before = .ok after →
      Fit isLog runner number after ∧
        Disk.Akin (Engine.numbered runner number).resultPath before after) :
    Safe isLog runner number (fun _ => True) (World.attempt step) := by
  intro journal logs world fit
  refine ⟨trivial, ?_⟩
  cases outcome : step world.disk with
  | error error =>
      simp only [World.attempt, Act.change, outcome]
      exact ⟨fit, .refl world.disk⟩
  | ok after =>
      simp only [World.attempt, Act.change, outcome]
      exact keeps world.disk after fit outcome

theorem Safe.write (path : Path) (content : Bytes) : Safe isLog runner number (fun _ => True)
    (World.attempt fun disk => disk.write path content) :=
  .attempt fun _ _ fit done => fit.write done

variable (own : engine.paths = (Engine.numbered runner number).paths)

include own

theorem Safe.remove : Safe isLog runner number (fun _ => True)
    (World.attempt fun disk => disk.remove engine.resultPath) := by
  rw [resultPath_own own]
  exact .attempt fun _ _ fit done => fit.remove done

theorem Safe.launch (writes : WritesResult tools runner) (exportName : String)
    (input : Option Nat) : Safe isLog runner number (fun _ => True)
      (World.launch tools (runner.command.filled (runnerValues exportName engine)) input) := by
  rw [runnerValues_own own]
  intro journal logs world fit
  refine ⟨trivial, ?_⟩
  cases launched : tools (runner.command.filled
      (runnerValues exportName (Engine.numbered runner number))) input world.disk with
  | refused error =>
      simp only [World.launch, Act.change, launched]
      exact ⟨fit, .refl world.disk⟩
  | finished finish =>
      simp only [World.launch, Act.change, launched]
      exact fit.launch (writes number exportName input world.disk finish fit.numbered launched)

theorem prepare_safe : Safe isLog runner number (fun _ => True) (prepare engine) := by
  refine prepare_of (fun _ => .pure trivial) ?_
    (fun _ rest => .bind (.write _ _) fun answer _ => rest answer)
    fun _ rest => .bind (.remove own) fun answer _ => rest answer
  refine .bind (.look _) fun answer _ => ?_
  cases answer <;> exact .pure trivial

omit own in
theorem load_safe (module : Bytes) :
    Safe isLog runner number (fun answer => answer.2.paths = engine.paths) (load module engine) := by
  unfold load
  split
  · exact .pure rfl
  · refine .bind (.write _ _) fun answer _ => ?_
    cases answer <;> exact .pure rfl

omit own in
theorem collectResult_safe (exportName : String) (launch : Launch) :
    Safe isLog runner number (fun answer => answer.2.paths = engine.paths)
      (collectResult runner exportName engine launch) := by
  cases launch with
  | refused error => exact .pure rfl
  | finished finish =>
      simp only [collectResult]
      split
      · exact .bind (.look _) fun _ _ => .pure rfl
      · exact .pure rfl

theorem invoke_safe (writes : WritesResult tools runner) (exportName : String) :
    Safe isLog runner number (fun answer => answer.2.paths = engine.paths)
      (invoke tools runner exportName engine) := by
  unfold invoke
  split
  · refine .bind (prepare_safe own) fun answer _ => ?_
    cases answer with
    | error fault => exact .pure rfl
    | ok input =>
        refine .bind (.note _ _ _) fun _ _ => ?_
        refine .bind (.launch own writes exportName input) fun launch _ => ?_
        exact collectResult_safe exportName launch
  · exact .pure rfl

theorem use_safe (writes : WritesResult tools runner) (use : Use (Option Bytes)) :
    Safe isLog runner number (fun used => used.paths = (Engine.numbered runner number).paths)
      ((engines tools runner).use engine use) := by
  cases use with
  | bindInput input => exact .pure own
  | clearOutput => exact .pure own
  | load module =>
      refine .bind (load_safe module) fun answer kept => ?_
      exact .pure (kept.trans own)
  | invoke exportName =>
      refine .bind (invoke_safe own writes exportName) fun answer kept => ?_
      exact .pure (kept.trans own)
  | marshal value => exact .pure own

theorem useAll_safe (writes : WritesResult tools runner) (uses : List (Use (Option Bytes))) :
    Safe isLog runner number (fun used => used.paths = (Engine.numbered runner number).paths)
      ((engines tools runner).useAll engine uses) := by
  induction uses generalizing engine with
  | nil => exact .pure own
  | cons use rest ih => exact .bind (use_safe own writes use) fun answer kept => ih kept

end actions

end External

end Bootstrap
