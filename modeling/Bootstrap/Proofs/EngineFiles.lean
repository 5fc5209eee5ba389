import Bootstrap.Proofs.WorkDirectory

/-!
What an engine does to the disk: it changes its own three files and nothing else, as long as its
runner leaves nothing but a result, and once it is released none of the three is there.
-/

namespace Bootstrap

namespace External

def Scratch (runner : Runner) (isMeant : Nat → Prop) (disk : Disk) (location : Location) : Prop :=
  ∃ number, isMeant number ∧
    ∃ path ∈ (Engine.numbered runner number).paths, disk.locate path = .ok location

section places

variable {runner : Runner} {isMeant : Nat → Prop} {first second third : Disk}

theorem locate_own (disk : Disk) {number : Nat} {path : Path}
    (own : path ∈ (Engine.numbered runner number).paths) :
    ∃ ending ∈ endings, disk.locate path = (disk.entrance runner.workDir).map fun directory =>
      directory ++ [fileName runner.family number ending] := by
  rw [paths_numbered] at own
  obtain ⟨ending, known, rfl⟩ := List.mem_map.mp own
  exact ⟨ending, known, locate_scratchPath disk runner number known⟩

theorem endsInSlash_own {number : Nat} {path : Path}
    (own : path ∈ (Engine.numbered runner number).paths) : Disk.endsInSlash path = false := by
  rw [paths_numbered] at own
  obtain ⟨ending, known, rfl⟩ := List.mem_map.mp own
  exact endsInSlash_scratchPath runner number known

theorem not_scratch {number : Nat} {path : Path} {location : Location}
    (own : path ∈ (Engine.numbered runner number).paths) (notMeant : ¬isMeant number)
    (located : first.locate path = .ok location) : ¬Scratch runner isMeant first location := by
  rintro ⟨other, meant, foreign, listed, locatedToo⟩
  obtain ⟨ending, known, mine⟩ := locate_own first own
  obtain ⟨final, knownToo, theirs⟩ := locate_own first listed
  cases entered : first.entrance runner.workDir with
  | error error => simp [mine, entered, Except.map] at located
  | ok directory =>
      rw [mine, entered] at located
      rw [theirs, entered, ← located] at locatedToo
      have names := Except.ok.inj locatedToo
      rw [List.append_cancel_left_eq, List.cons.injEq] at names
      obtain ⟨rfl, -⟩ := fileName_inj knownToo known names.1
      exact notMeant meant

theorem entrance_eq (agree : Disk.AgreeOff (Scratch runner isMeant first) first second) :
    second.entrance runner.workDir = first.entrance runner.workDir := by
  cases entered : first.entrance runner.workDir with
  | ok directory => exact agree.entrance_ok entered
  | error error =>
      -- With no way in there are no places of engines' files, so that nothing at all is set aside.
      rw [← entered]
      refine Disk.entrance_congr agree.here fun location => agree.sight location ?_
      rintro ⟨number, -, path, own, located⟩
      obtain ⟨ending, -, lost⟩ := locate_own first own
      simp [lost, entered, Except.map] at located

theorem locate_eq (agree : Disk.AgreeOff (Scratch runner isMeant first) first second) {number : Nat}
    {path : Path} (own : path ∈ (Engine.numbered runner number).paths) :
    second.locate path = first.locate path := by
  rw [paths_numbered] at own
  obtain ⟨ending, known, rfl⟩ := List.mem_map.mp own
  rw [locate_scratchPath _ _ _ known, locate_scratchPath _ _ _ known, entrance_eq agree]

theorem scratch_iff (agree : Disk.AgreeOff (Scratch runner isMeant first) first second)
    (isOther : Nat → Prop) (location : Location) :
    Scratch runner isOther second location ↔ Scratch runner isOther first location := by
  constructor
  · rintro ⟨number, meant, path, own, located⟩
    exact ⟨number, meant, path, own, locate_eq agree own ▸ located⟩
  · rintro ⟨number, meant, path, own, located⟩
    exact ⟨number, meant, path, own, (locate_eq agree own).trans located⟩

end places

/-- The disks differ in the files of engines whose number is meant, if in anything. -/
structure Touches (runner : Runner) (isMeant : Nat → Prop) (before after : Disk) : Prop where
  agree : Disk.AgreeOff (Scratch runner isMeant before) before after
  numbered : after.Numbered

section touching

variable {runner : Runner} {isMeant : Nat → Prop} {first second third : Disk}

theorem Touches.refl (numbered : first.Numbered) : Touches runner isMeant first first :=
  ⟨.refl first, numbered⟩

theorem Touches.trans (touches : Touches runner isMeant first second)
    (more : Touches runner isMeant second third) : Touches runner isMeant first third :=
  ⟨touches.agree.trans (more.agree.mono fun location => (scratch_iff touches.agree _ location).mp),
    more.numbered⟩

theorem Touches.mono {isOther : Nat → Prop} (includes : ∀ number, isMeant number → isOther number)
    (touches : Touches runner isMeant first second) : Touches runner isOther first second :=
  ⟨touches.agree.mono fun _ ⟨number, meant, scratch⟩ => ⟨number, includes number meant, scratch⟩,
    touches.numbered⟩

theorem Touches.of_agree {number : Nat} {path : Path} {location : Location}
    (own : path ∈ (Engine.numbered runner number).paths) (located : first.locate path = .ok location)
    (agree : Disk.AgreeOff (· = location) first second) (numbered : second.Numbered) :
    Touches runner (· = number) first second :=
  ⟨agree.mono fun _ same => ⟨number, rfl, path, own, by rw [same, located]⟩, numbered⟩

variable {number : Nat} {path : Path} (touches : Touches runner isMeant first second)
  (own : path ∈ (Engine.numbered runner number).paths) (notMeant : ¬isMeant number)

include touches own notMeant

theorem Touches.read_eq : second.read path = first.read path :=
  Disk.read_agree touches.agree (locate_eq touches.agree own) fun _ => not_scratch own notMeant

theorem Touches.isFile_eq : second.isFile path = first.isFile path :=
  Disk.isFile_agree touches.agree (locate_eq touches.agree own) fun _ => not_scratch own notMeant

theorem Touches.numberOf_eq :
    (second.numberOf path).map (fun _ => ()) = (first.numberOf path).map fun _ => () :=
  Disk.numberOf_agree touches.agree (locate_eq touches.agree own) fun _ => not_scratch own notMeant

end touching

/-- What a runner may leave on the disk: nothing, or a regular file at the path of its result. -/
inductive Leaves (before after : Disk) (path : Path) : Prop
  | nothing : Disk.AgreeOff (fun _ => False) before after →
      (before.Numbered → after.Numbered) → Leaves before after path
  | result {location : Location} {content : Bytes} : before.locate path = .ok location →
      before.sight location ≠ some .directory →
      Disk.Changes before after location (some (.file 0 content)) → Leaves before after path

/-- The runner writes nothing but a regular file at the path of the result. -/
def Tidy (tools : Tools) (runner : Runner) : Prop :=
  ∀ (number : Nat) (exportName : String) (input : Option Nat) (disk : Disk) (finish : Finish),
    disk.Numbered →
    tools (runner.command.filled (runnerValues exportName (Engine.numbered runner number))) input
      disk = .finished finish →
    Leaves disk finish.disk (Engine.numbered runner number).resultPath

theorem Leaves.touches {runner : Runner} {number : Nat} {before after : Disk}
    (leaves : Leaves before after (Engine.numbered runner number).resultPath)
    (numbered : before.Numbered) : Touches runner (· = number) before after := by
  cases leaves with
  | nothing agree kept => exact ⟨agree.mono fun _ => False.elim, kept numbered⟩
  | result located notDirectory changes =>
      exact .of_agree (by simp [Engine.paths]) located (changes.agreeOff notDirectory (by simp))
        (changes.numbered numbered)

def Confined {α : Type} (runner : Runner) (number : Nat) (action : Act World α) : Prop :=
  ∀ world, world.disk.Numbered → (action.alone world).world.nextEngine = world.nextEngine ∧
    Touches runner (· = number) world.disk (action.alone world).world.disk

section actions

variable {α β : Type} {tools : Tools} {runner : Runner} {number : Nat} {engine : Engine}

theorem Confined.pure (answer : α) : Confined runner number (Pure.pure answer) :=
  fun _ numbered => ⟨rfl, .refl numbered⟩

theorem Confined.look (answer : Disk → α) : Confined runner number (World.look answer) :=
  fun _ numbered => ⟨rfl, .refl numbered⟩

theorem Confined.note (level : Log.Level) (target message : String) :
    Confined runner number (Act.note level target message) :=
  fun _ numbered => ⟨rfl, .refl numbered⟩

theorem Confined.bind {action : Act World α} {next : α → Act World β}
    (confined : Confined runner number action) (rest : ∀ answer, Confined runner number (next answer)) :
    Confined runner number (action >>= next) := by
  intro world numbered
  obtain ⟨same, touches⟩ := confined world numbered
  obtain ⟨sameToo, touchesToo⟩ := rest (action.alone world).answer _ touches.numbered
  exact ⟨sameToo.trans same, touches.trans touchesToo⟩

theorem Confined.attempt {path : Path} {change : Option Node → Except OsError (Option Node)}
    {step : Disk → Except OsError Disk} (own : path ∈ (Engine.numbered runner number).paths)
    (spares : Disk.SparesDirectories change)
    (effect : ∀ disk, Disk.Effect disk path change (step disk)) :
    Confined runner number (World.attempt step) := by
  intro world numbered
  cases outcome : step world.disk with
  | error error =>
      have same : ((World.attempt step).alone world).world = world := by
        simp [World.attempt, Act.alone, Act.change, outcome]
      rw [same]
      exact ⟨rfl, .refl numbered⟩
  | ok after =>
      have changed : ((World.attempt step).alone world).world = world.withDisk after := by
        simp [World.attempt, Act.alone, Act.change, outcome]
      obtain ⟨location, located, agree, kept⟩ :=
        Disk.Effect.agreeOff spares (outcome ▸ effect world.disk)
      rw [changed]
      exact ⟨rfl, .of_agree own located agree (kept numbered)⟩

theorem Confined.write {path : Path} (own : path ∈ (Engine.numbered runner number).paths)
    (content : Bytes) :
    Confined runner number (World.attempt fun disk => disk.write path content) :=
  .attempt own (Disk.written_spares path content) fun disk => disk.write_effect path content

theorem Confined.remove {path : Path} (own : path ∈ (Engine.numbered runner number).paths) :
    Confined runner number (World.attempt fun disk => disk.remove path) :=
  .attempt own (Disk.removed_spares path) fun disk => disk.remove_effect path

/-- What holds of a fault and of opening the input, and goes back over both changes of the disk, holds of
the preparation of a call. -/
theorem prepare_of {Holds : Act World (Except Fault (Option Nat)) → Prop}
    (faults : ∀ fault, Holds (Pure.pure (.error fault))) (opens : Holds (prepare.openInput engine))
    (writes : ∀ next, (∀ answer, Holds (next answer)) →
      Holds ((World.attempt fun disk => disk.write engine.inputPath engine.input) >>= next))
    (removes : ∀ next, (∀ answer, Holds (next answer)) →
      Holds ((World.attempt fun disk => disk.remove engine.resultPath) >>= next)) :
    Holds (prepare engine) := by
  refine writes _ fun written => ?_
  cases written with
  | error error => exact faults _
  | ok _ =>
      refine removes _ fun removed => ?_
      cases removed with
      | ok _ => exact opens
      | error error => cases error <;> first | exact opens | exact faults _

variable (own : engine.paths = (Engine.numbered runner number).paths)

include own

theorem module_own : engine.modulePath ∈ (Engine.numbered runner number).paths := by
  rw [← own]
  simp [Engine.paths]

theorem input_own : engine.inputPath ∈ (Engine.numbered runner number).paths := by
  rw [← own]
  simp [Engine.paths]

theorem result_own : engine.resultPath ∈ (Engine.numbered runner number).paths := by
  rw [← own]
  simp [Engine.paths]

theorem runnerValues_own (exportName : String) :
    runnerValues exportName engine = runnerValues exportName (Engine.numbered runner number) := by
  simp only [Engine.paths, List.cons.injEq] at own
  simp only [runnerValues, own]

theorem resultPath_own : engine.resultPath = (Engine.numbered runner number).resultPath := by
  simp only [Engine.paths, List.cons.injEq] at own
  exact own.2.2.1

end actions

section records

variable {tools : Tools} {runner : Runner} {number : Nat} {engine : Engine}

end records

section releasing

variable {runner : Runner} {number : Nat} {path : Path}

def removal (path : Path) (disk : Disk) : Disk :=
  (disk.remove path).toOption.getD disk

theorem removal_of_ok {disk after : Disk} (outcome : disk.remove path = .ok after) :
    removal path disk = after := by
  simp [removal, outcome, Except.toOption]

theorem removal_of_error {disk : Disk} {error : OsError} (outcome : disk.remove path = .error error) :
    removal path disk = disk := by
  simp [removal, outcome, Except.toOption]

end releasing

end External

end Bootstrap
