import Bootstrap.Proofs.EngineCalls

/-!
An engine that gets a new module, a new input and a clear output answers like a new engine, whatever
was done with it before. Main statement: `rerun_like_fresh`.
-/

namespace Bootstrap

namespace External

section rerunning

variable {tools : Tools} {runner : Runner} {number : Nat} {engine : Engine} {module : Bytes}
  {world : World} {journal : Journal World}

theorem load_empty (engine : Engine) :
    load [] engine = pure (.error (.load "empty module"), engine) :=
  rfl

theorem load_of_written (nonempty : module ≠ []) {after : Disk}
    (done : world.disk.write engine.modulePath module = .ok after) :
    load module engine journal world =
      ⟨(.ok (), { engine with loaded := true }), [], world.withDisk after⟩ := by
  have notEmpty : module.isEmpty = false := by simpa using nonempty
  simp [load, notEmpty, World.attempt, Act.change, bind, Act.bind, pure, Act.pure, done]

theorem load_of_unwritable (nonempty : module ≠ []) {error : OsError}
    (refused : world.disk.write engine.modulePath module = .error error) :
    load module engine journal world =
      ⟨(.error (.load (refusal "cannot write" engine.modulePath error)), engine), [], world⟩ := by
  have notEmpty : module.isEmpty = false := by simpa using nonempty
  simp [load, notEmpty, World.attempt, Act.change, bind, Act.bind, pure, Act.pure, refused]

def Engine.readied (engine : Engine) (input : Bytes) : Engine :=
  { engine with input := input, output := [], loaded := true }

theorem readied_eq {other : Engine} (same : other.paths = engine.paths) (input : Bytes) :
    other.readied input = engine.readied input := by
  simp only [Engine.paths, List.cons.injEq, and_true] at same
  obtain ⟨module, input, result⟩ := same
  simp only [Engine.readied, module, input, result]

theorem rerun_of_written (tools : Tools) (runner : Runner) (nonempty : module ≠ []) {after : Disk}
    (done : world.disk.write engine.modulePath module = .ok after) (input : Bytes)
    (exportName : String) :
    let called := (call tools runner exportName (engine.readied input) journal
      (world.withDisk after)).answer
    ((engines tools runner).rerun module input exportName engine journal world).answer =
      .ok (called.1, called.2.output) := by
  simp only [EngineKit.rerun, engines, bind, Act.bind, load_of_written nonempty done]
  rfl

theorem exists_written (tools : Tools) (runner : Runner) {input : Bytes} {exportName : String}
    {outcome : Except Fault (Option Bytes) × Bytes}
    (answered : ((engines tools runner).rerun module input exportName engine journal world).answer =
      .ok outcome) :
    module ≠ [] ∧ ∃ after, world.disk.write engine.modulePath module = .ok after := by
  by_cases empty : module = []
  · subst empty
    simp [EngineKit.rerun, engines, bind, Act.bind, load_empty, pure, Act.pure] at answered
  · refine ⟨empty, ?_⟩
    cases written : world.disk.write engine.modulePath module with
    | ok after => exact ⟨after, rfl⟩
    | error error =>
        simp [EngineKit.rerun, engines, bind, Act.bind, load_of_unwritable empty written, pure,
          Act.pure] at answered

theorem rerun_answer (functional : Functional tools runner)
    (own : engine.paths = (Engine.numbered runner number).paths) {another : Engine}
    (ownToo : another.paths = (Engine.numbered runner number).paths)
    {isLog isLogToo : Nat → Prop} {other : Journal World} {elsewhere : World}
    (logs : LogsTo isLog journal) (logsToo : LogsTo isLogToo other)
    (fit : Fit isLog runner number world.disk) (fitToo : Fit isLogToo runner number elsewhere.disk)
    (akin : Disk.Akin (Engine.numbered runner number).resultPath world.disk elsewhere.disk)
    {input : Bytes} {exportName : String} {outcome : Except Fault (Option Bytes) × Bytes}
    (answered : ((engines tools runner).rerun module input exportName engine journal world).answer =
      .ok outcome) :
    ((engines tools runner).rerun module input exportName another other elsewhere).answer =
      .ok outcome := by
  obtain ⟨nonempty, after, done⟩ := exists_written tools runner answered
  obtain ⟨moduleAt, located, noSlash, puts⟩ := Disk.write_eq_ok_iff.mp done
  have samePath : another.modulePath = engine.modulePath :=
    (modulePath_own ownToo).trans (modulePath_own own).symm
  have free : elsewhere.disk.node? moduleAt ≠ some .directory := by
    rw [Ne, akin.directory]
    exact puts.free
  have locatedToo := (akin.locate_ok_iff _ moduleAt).mpr located
  obtain ⟨afterToo, putsToo⟩ := Disk.exists_puts moduleAt module free
  have doneToo : elsewhere.disk.write another.modulePath module = .ok afterToo := by
    rw [samePath]
    exact Disk.write_eq_ok_iff.mpr ⟨moduleAt, locatedToo, noSlash, putsToo⟩
  obtain ⟨fitAfter, kept⟩ := fit.write done
  obtain ⟨fitAfterToo, keptToo⟩ := fitToo.write doneToo
  have ownReadied : (engine.readied input).paths = (Engine.numbered runner number).paths := own
  -- Both disks have the module now, and are still akin.
  have akinAfter : Disk.Akin (engine.readied input).resultPath after afterToo := by
    rw [resultPath_own ownReadied]
    exact (kept.symm.trans akin).trans keptToo
  have notResult : world.disk.locate (Engine.numbered runner number).resultPath ≠ .ok moduleAt := by
    have differs := (paths_distinct own).2.1
    rw [resultPath_own own] at differs
    exact locate_ne (module_own own) (result_own rfl) differs located
  have found := puts.lookAt ((kept.locate_ok_iff _ _).mpr located) noSlash
  have foundToo := putsToo.lookAt ((keptToo.locate_ok_iff _ _).mpr locatedToo) noSlash
  rw [akin.stored_eq notResult] at foundToo
  have calls : (call tools runner exportName (engine.readied input) other
      (elsewhere.withDisk afterToo)).answer =
      (call tools runner exportName (engine.readied input) journal (world.withDisk after)).answer :=
    call_answer_eq (world.withDisk after) (elsewhere.withDisk afterToo) functional ownReadied logs
      logsToo fitAfter fitAfterToo akinAfter found foundToo exportName
  rw [rerun_of_written tools runner nonempty done] at answered
  rw [rerun_of_written tools runner nonempty doneToo, readied_eq (ownToo.trans own.symm), ← answered]
  exact congrArg (fun called => Except.ok (called.1, called.2.output)) calls

end rerunning

/-- The journal writes to open log files, none of which is the module or the input of the engine. -/
def Spares (journal : Journal World) (runner : Runner) (number : Nat) (disk : Disk) : Prop :=
  ∃ isLog, LogsTo isLog journal ∧ Fit isLog runner number disk

/-- An engine that is run anew shows nothing of its history. A toy engine answers like a fresh one in
any world, and is left alone by a module that it cannot parse. An engine with a runner that is a
function of what it finds and writes its result only has disturbed nothing around its files, and it
answers like a fresh engine with the same paths on any disk with the same surroundings; an empty module
leaves it alone. -/
theorem rerun_like_fresh :
    ((∀ (unavailable : Bool) (history : List (Use Toy.Value)) (journal other : Journal Toy.World)
        (world elsewhere : Toy.World) (module input : Bytes) (exportName : String),
        let used := (Toy.engines unavailable).useAll .fresh history journal world
        ((Toy.engines unavailable).rerun module input exportName used.answer journal
            used.world).answer =
          ((Toy.engines unavailable).rerun module input exportName .fresh other elsewhere).answer) ∧
      ∀ (unavailable : Bool) (module : Bytes) (fault : Fault) (engine : Toy.Engine),
        Toy.Module.parse module = .error fault →
        (Toy.engines unavailable).load module engine = pure (.error fault, engine)) ∧
    (∀ (tools : Tools) (runner : Runner) (number : Nat), WritesResult tools runner →
        Functional tools runner → ∀ (journal : Journal World) (world : World),
        Spares journal runner number world.disk → ∀ history : List (Use (Option Bytes)),
        let fresh := Engine.numbered runner number
        let used := (engines tools runner).useAll fresh history journal world
        Disk.Akin fresh.resultPath world.disk used.world.disk ∧
        ∀ (other : Journal World) (elsewhere : World), Spares other runner number elsewhere.disk →
        Disk.Akin fresh.resultPath world.disk elsewhere.disk →
        ∀ (module input : Bytes) (exportName : String)
          (outcome : Except Fault (Option Bytes) × Bytes),
          ((engines tools runner).rerun module input exportName used.answer journal
              used.world).answer = .ok outcome ↔
            ((engines tools runner).rerun module input exportName fresh other elsewhere).answer =
              .ok outcome) ∧
      ∀ (tools : Tools) (runner : Runner) (engine : Engine),
        (engines tools runner).load [] engine = pure (.error (.load "empty module"), engine) := by
  refine ⟨⟨?_, ?_⟩, ?_, ?_⟩
  · intro unavailable history journal other world elsewhere module input exportName used
    rw [Toy.rerun_eq, Toy.rerun_eq]
    rfl
  · intro unavailable module fault engine unparsable
    simp only [Toy.engines, Toy.Engine.load_of_error unparsable]
  · intro tools runner number writes functional journal world spares history fresh used
    obtain ⟨isLog, logs, fit⟩ := spares
    obtain ⟨own, fitUsed, akinUsed⟩ := useAll_safe rfl writes history journal logs world fit
    refine ⟨akinUsed, ?_⟩
    intro other elsewhere sparesToo akin module input exportName outcome
    obtain ⟨isLogToo, logsToo, fitToo⟩ := sparesToo
    have between := akinUsed.symm.trans akin
    constructor
    · exact rerun_answer functional own rfl logs logsToo fitUsed fitToo between
    · exact rerun_answer functional rfl own logsToo logs fitToo fitUsed between.symm
  · intro tools runner engine
    rfl

section joining

variable {path : Path} {content : Bytes} {disk : Disk}

theorem writeTo_leaves {finish : Finish} (finished : writeTo path content disk = .finished finish) :
    LeavesResult path disk finish.disk := by
  rw [writeTo] at finished
  cases outcome : disk.write path content with
  | error error =>
      simp only [outcome, Launch.finished.injEq] at finished
      subst finished
      exact ⟨rfl, fun _ _ => rfl, fun _ _ => .inl rfl, Nat.le_refl _, id⟩
  | ok after =>
      simp only [outcome, Launch.finished.injEq] at finished
      subst finished
      obtain ⟨location, located, -, puts⟩ := Disk.write_eq_ok_iff.mp outcome
      refine ⟨puts.here, ?_, ?_, puts.nextNumber_le, fun numbered =>
        Disk.write_numbered numbered outcome⟩
      · intro other elsewhere
        exact puts.elsewhere fun same => elsewhere (same ▸ located)
      · intro other locatedToo
        obtain rfl : location = other := Except.ok.inj (located.symm.trans locatedToo)
        rcases puts.there with ⟨found, there⟩ | ⟨number, there, -⟩
        · exact .inl (there.trans found.symm)
        · exact .inr ⟨puts.free, number, content, there⟩

theorem writeTo_alike {first second : Disk} {location place : Location}
    (noSlash : Disk.endsInSlash path = false) (located : first.locate path = .ok location)
    (locatedToo : second.locate path = .ok place)
    (alike : second.lookAt path = first.lookAt path) (content : Bytes) :
    Launch.Alike path (writeTo path content first) (writeTo path content second) := by
  have sights : second.sight place = first.sight location := by
    rw [Disk.lookAt_of_locate located noSlash, Disk.lookAt_of_locate locatedToo noSlash] at alike
    cases seen : first.sight location <;> cases seenToo : second.sight place <;>
      simp_all
  by_cases taken : first.node? location = some .directory
  · have takenToo : second.node? place = some .directory := by
      rw [← Disk.sight_eq_directory] at taken ⊢
      exact sights.trans taken
    rw [writeTo, writeTo, Disk.write_of_directory located noSlash taken,
      Disk.write_of_directory locatedToo noSlash takenToo]
    refine .finished rfl rfl rfl ?_
    rw [Disk.read_eq, Disk.read_eq, alike]
  · have freeToo : second.node? place ≠ some .directory := by
      rw [← Disk.sight_eq_directory] at taken
      rwa [Ne, ← Disk.sight_eq_directory, sights]
    obtain ⟨after, puts⟩ := Disk.exists_puts location content taken
    obtain ⟨afterToo, putsToo⟩ := Disk.exists_puts place content freeToo
    have done := Disk.write_eq_ok_iff.mpr ⟨location, located, noSlash, puts⟩
    have doneToo := Disk.write_eq_ok_iff.mpr ⟨place, locatedToo, noSlash, putsToo⟩
    rw [writeTo, writeTo, done, doneToo]
    refine .finished rfl rfl rfl ?_
    have akin : Disk.Akin path first after := Disk.write_akin done
    have akinToo : Disk.Akin path second afterToo := Disk.write_akin doneToo
    have stored : second.stored place content = first.stored location content := by
      simp only [Disk.stored, ← Disk.sight_eq_device, sights]
    rw [Disk.read_eq, Disk.read_eq, puts.lookAt ((akin.locate_ok_iff _ _).mpr located) noSlash,
      putsToo.lookAt ((akinToo.locate_ok_iff _ _).mpr locatedToo) noSlash, stored]

def fullRunner : Runner where
  command := ⟨"run", ["\x7bmodule\x7d", "\x7bexport\x7d", "\x7bresult\x7d"]⟩
  workDir := ⟨"."⟩
  falseLiteral := "false"
  trueLiteral := "true"
  family := 7

def aborted : Launch → Launch
  | .refused error => .refused error
  | .finished finish => .finished { finish with status := .signal 6 }

/-- A tool that writes its module and its input to the result; one export aborts after that. -/
def joining : Tools := fun words input disk =>
  let module := (disk.read ⟨words.getD 1 ""⟩).toOption.getD []
  let launch := writeTo ⟨words.getD 3 ""⟩ (module ++ inputContent input disk) disk
  if words.getD 2 "" = "abort" then aborted launch else launch

theorem joining_filled (exportName : String) (engine : Engine) (input : Option Nat) (disk : Disk) :
    joining (fullRunner.command.filled (runnerValues exportName engine)) input disk =
      let module := (disk.read engine.modulePath).toOption.getD []
      let launch := writeTo engine.resultPath (module ++ inputContent input disk) disk
      if exportName = "abort" then aborted launch else launch := rfl

theorem joining_writesResult : WritesResult joining fullRunner := by
  intro number exportName input disk finish numbered finished
  rw [joining_filled] at finished
  simp only at finished
  split at finished
  · generalize launched : writeTo _ _ disk = launch at finished
    cases launch with
    | refused error => simp [aborted] at finished
    | finished ended =>
        obtain rfl := Launch.finished.inj finished
        exact @writeTo_leaves _ _ _ ended launched
  · exact writeTo_leaves finished

theorem Launch.Alike.aborted {launch other : Launch} (alike : Launch.Alike path launch other) :
    Launch.Alike path (External.aborted launch) (External.aborted other) := by
  cases alike with
  | refused error => exact .refused error
  | finished _ stdout stderr read => exact .finished rfl stdout stderr read

theorem joining_functional : Functional joining fullRunner := by
  intro number exportName first second input other module numbered numberedToo engine found foundToo
    results contents words
  obtain ⟨moduleAt, located, -⟩ := Disk.exists_locate_of_lookAt found
  obtain ⟨moduleAtToo, locatedToo, -⟩ := Disk.exists_locate_of_lookAt foundToo
  have moduleOwn : engine.modulePath ∈ (Engine.numbered fullRunner number).paths := module_own rfl
  have resultOwn : engine.resultPath ∈ (Engine.numbered fullRunner number).paths := result_own rfl
  obtain ⟨resultAt, placed⟩ := exists_locate_own moduleOwn resultOwn located
  obtain ⟨resultAtToo, placedToo⟩ := exists_locate_own moduleOwn resultOwn locatedToo
  have modules : second.read engine.modulePath = first.read engine.modulePath := by
    rw [Disk.read_eq, Disk.read_eq, found, foundToo]
  have launches := writeTo_alike (endsInSlash_own resultOwn) placed placedToo results
    ((first.read engine.modulePath).toOption.getD [] ++ inputContent input first)
  simp only [words, joining_filled, modules, contents]
  split
  · exact launches.aborted
  · exact launches

theorem loggedDisk_spares (level : Log.Level) :
    Spares (journalOf (fileLogger level)) fullRunner 0 loggedDisk := by
  refine ⟨_, journalOf_logsTo _, ?_, ?_, ?_⟩
  · have created : Disk.empty.write ⟨"run.log"⟩ [] = .ok loggedDisk := by decide +kernel
    exact Disk.write_numbered Disk.numbered_empty created
  · intro handle known
    obtain rfl : handle = 0 := by simpa [fileLogger, Log.Logger.new, Log.Logger.addSink] using known
    decide +kernel
  · intro path own _ location handle content located found
    have absent : ∀ path ∈ (Engine.numbered fullRunner 0).paths,
        (loggedDisk.locate path).toOption.all fun location =>
          (loggedDisk.node? location).isNone := by
      decide +kernel
    have missing := absent path own
    simp [located, found, Except.toOption] at missing

def troubled : List (Use (Option Bytes)) :=
  [.load [1], .bindInput [5], .invoke "abort", .load [], .marshal none]

theorem rerun_after_abort :
    let kit := engines joining fullRunner
    let fresh := Engine.numbered fullRunner 0
    let journal := journalOf (fileLogger .debug)
    let used := kit.useAll fresh troubled journal (World.start loggedDisk)
    WritesResult joining fullRunner ∧ Functional joining fullRunner ∧
      Spares journal fullRunner 0 loggedDisk ∧ used.answer.output = [1, 5] ∧
      used.world.disk.read fresh.resultPath = .ok [1, 5] ∧
      (kit.rerun [9] [8] "main" used.answer journal used.world).answer =
        .ok (.ok (some [9, 8]), [9, 8]) ∧
      (Toy.engines false).load [] .fresh = pure (.error (.load "not a module: ''"), .fresh) := by
  intro kit fresh journal used
  have spares := loggedDisk_spares .debug
  refine ⟨joining_writesResult, joining_functional, spares, by decide +kernel, by decide +kernel,
    ?_, rerun_like_fresh.1.2 false [] _ .fresh (by decide +kernel)⟩
  obtain ⟨-, rerun⟩ := rerun_like_fresh.2.1 joining fullRunner 0 joining_writesResult
    joining_functional journal (World.start loggedDisk) spares troubled
  have agrees := rerun journal (World.start loggedDisk) spares (.refl loggedDisk) [9] [8] "main"
    (.ok (some [9, 8]), [9, 8])
  rw [agrees]
  decide +kernel

end joining

end External

end Bootstrap
