import Bootstrap.Proofs.EngineFiles

/-!
What an engine answers: on two disks that differ in the files of other engines only, the same, as
long as its runner looks at its own files only.
-/

namespace Bootstrap

namespace External

inductive Launch.Alike (path : Path) : Launch → Launch → Prop
  | refused (error : OsError) : Alike path (.refused error) (.refused error)
  | finished {first second : Finish} : second.status = first.status →
      second.stdout = first.stdout → second.stderr = first.stderr →
      second.disk.read path = first.disk.read path → Alike path (.finished first) (.finished second)

/-- The worlds differ in the files of other engines, if in anything that can be seen. -/
structure Apart (runner : Runner) (number : Nat) (first second : World) : Prop where
  touches : Touches runner (· ≠ number) first.disk second.disk
  numbered : first.disk.Numbered

/-- An action whose answer, as far as it is shown, does not depend on the files of other engines. -/
def Steady {α β : Type} (runner : Runner) (number : Nat) (shown : α → β) (action : Act World α) :
    Prop :=
  ∀ first second, Apart runner number first second →
    shown (action.alone second).answer = shown (action.alone first).answer ∧
      Apart runner number (action.alone first).world (action.alone second).world

section actions

variable {α β γ : Type} {tools : Tools} {runner : Runner} {number : Nat} {engine : Engine}
  {shown : β → γ}

theorem Steady.pure (answer : β) : Steady runner number shown (Pure.pure answer) :=
  fun _ _ apart => ⟨rfl, apart⟩

theorem Steady.bind {action : Act World α} {next : α → Act World β}
    (steady : Steady runner number id action) (rest : ∀ answer, Steady runner number shown (next answer)) :
    Steady runner number shown (action >>= next) := by
  intro first second apart
  obtain ⟨same, apartToo⟩ := steady first second apart
  simp only [id_eq] at same
  simp only [Act.answer_bind_alone, Act.world_bind_alone, same]
  exact rest _ _ _ apartToo

theorem Steady.attempt {path : Path} {change : Option Node → Except OsError (Option Node)}
    {step : Disk → Except OsError Disk} (own : path ∈ (Engine.numbered runner number).paths)
    (spares : Disk.SparesDirectories change)
    (effect : ∀ disk, Disk.Effect disk path change (step disk)) :
    Steady runner number id (World.attempt step) := by
  intro first second apart
  have agree := apart.touches.agree
  have confined := (Confined.attempt own spares effect first apart.numbered).2
  have confinedToo := (Confined.attempt own spares effect second apart.touches.numbered).2
  rcases Disk.Effect.pair agree (locate_eq agree own)
      (fun _ => not_scratch own fun differs => differs rfl) (effect first.disk)
      (effect second.disk) with ⟨error, refused, refusedToo⟩ | ⟨left, right, done, doneToo, agreeToo⟩
  · simp only [World.attempt, Act.alone, Act.change, refused, refusedToo]
    exact ⟨trivial, apart⟩
  · simp only [World.attempt, Act.alone, Act.change, done, doneToo] at confined confinedToo ⊢
    refine ⟨trivial, ⟨agreeToo.mono fun location => ?_, confinedToo.numbered⟩, confined.numbered⟩
    exact (scratch_iff confined.agree _ location).mpr

theorem Steady.write {path : Path} (own : path ∈ (Engine.numbered runner number).paths)
    (content : Bytes) :
    Steady runner number id (World.attempt fun disk => disk.write path content) :=
  .attempt own (Disk.written_spares path content) fun disk => disk.write_effect path content

theorem Steady.remove {path : Path} (own : path ∈ (Engine.numbered runner number).paths) :
    Steady runner number id (World.attempt fun disk => disk.remove path) :=
  .attempt own (Disk.removed_spares path) fun disk => disk.remove_effect path

def Opens (engine : Engine) (action : Act World (Except Fault (Option Nat))) : Prop :=
  ∀ world input, (action.alone world).answer = .ok input →
    (action.alone world).world.disk.numberOf engine.inputPath = .ok input

theorem Opens.fault (fault : Fault) : Opens engine (Pure.pure (.error fault)) := by
  intro world input opened
  simp [Act.alone, Pure.pure, Act.pure] at opened

theorem Opens.bind {action : Act World α} {next : α → Act World (Except Fault (Option Nat))}
    (rest : ∀ answer, Opens engine (next answer)) : Opens engine (action >>= next) :=
  fun _ _ opened => rest _ _ _ opened

theorem launch_answer (tools : Tools) (words : List String) (input : Option Nat) (world : World) :
    ((World.launch tools words input).alone world).answer = tools words input world.disk := by
  simp only [World.launch, Act.alone, Act.change]
  cases tools words input world.disk <;> rfl

theorem launch_disk {words : List String} {input : Option Nat} {world : World} {finish : Finish}
    (finished : ((World.launch tools words input).alone world).answer = .finished finish) :
    ((World.launch tools words input).alone world).world.disk = finish.disk := by
  rw [launch_answer] at finished
  simp [World.launch, Act.alone, Act.change, finished, World.withDisk]

variable (own : engine.paths = (Engine.numbered runner number).paths)

include own

theorem collectResult_answer (exportName : String) {launch launchToo : Launch}
    (alike : Launch.Alike (Engine.numbered runner number).resultPath launch launchToo)
    {first second : World} (disk : ∀ finish, launch = .finished finish → first.disk = finish.disk)
    (diskToo : ∀ finish, launchToo = .finished finish → second.disk = finish.disk) :
    ((collectResult runner exportName engine launchToo).alone second).answer =
      ((collectResult runner exportName engine launch).alone first).answer := by
  cases alike with
  | refused error => rfl
  | @finished finish finishToo status stdout stderr result =>
      have read : second.disk.read engine.resultPath = first.disk.read engine.resultPath := by
        rw [resultPath_own own, disk finish rfl, diskToo finishToo rfl, result]
      have shown : ((World.look fun disk => (disk.read engine.resultPath).toOption).alone second).answer =
          ((World.look fun disk => (disk.read engine.resultPath).toOption).alone first).answer :=
        congrArg Except.toOption read
      simp only [collectResult, stdout, status, failureText, complaint, stderr]
      split
      · simp only [Act.answer_bind_alone, shown]
        rfl
      · rfl

end actions

end External

end Bootstrap
