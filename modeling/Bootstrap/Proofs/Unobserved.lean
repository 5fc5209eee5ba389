import Bootstrap.Attempt
import Bootstrap.Session
import Bootstrap.Proofs.CorpusReading

/-!
Actions that do not see the log: whatever is open for logging, they answer alike, have the same to
log, and leave worlds that differ in their log files at most.
-/

namespace Bootstrap

variable {World Engine Value α β : Type}

/-- Writing to the log leaves a world the same. -/
def Journal.Spares (Same : World → World → Prop) (journal : Journal World) : Prop :=
  ∀ note world, Same (journal note world) world

def Act.Unaware (Same : World → World → Prop) (action : Act World α) : Prop :=
  ∀ journal other, Journal.Spares Same journal → Journal.Spares Same other →
    ∀ world twin, Same world twin →
      (action journal world).answer = (action other twin).answer ∧
        (action journal world).notes = (action other twin).notes ∧
        Same (action journal world).world (action other twin).world

namespace Act.Unaware

variable {Same : World → World → Prop}

theorem pure (answer : α) : Unaware Same (Pure.pure answer) :=
  fun _ _ _ _ _ _ same => ⟨rfl, rfl, same⟩

theorem bind {first : Act World α} {next : α → Act World β} (begins : Unaware Same first)
    (goes : ∀ answer, Unaware Same (next answer)) : Unaware Same (first >>= next) := by
  intro journal other spares otherSpares world twin same
  obtain ⟨answer, notes, worlds⟩ := begins journal other spares otherSpares world twin same
  obtain ⟨final, further, ends⟩ :=
    goes (first journal world).answer journal other spares otherSpares _ _ worlds
  rw [answer] at final further ends
  have chained (journal : Journal World) (world : World) : (first >>= next) journal world =
      ⟨(next (first journal world).answer journal (first journal world).world).answer,
        (first journal world).notes ++
          (next (first journal world).answer journal (first journal world).world).notes,
        (next (first journal world).answer journal (first journal world).world).world⟩ := rfl
  rw [chained, chained, answer]
  exact ⟨final, by rw [notes, further], ends⟩

theorem note (equivalence : Equivalence Same) (level : Log.Level) (target message : String) :
    Unaware Same (Act.note level target message) := by
  intro journal other spares otherSpares world twin same
  exact ⟨rfl, rfl,
    equivalence.trans (spares _ world) (equivalence.trans same (equivalence.symm (otherSpares _ twin)))⟩

theorem of_eq (action : Act World α) : Unaware Eq action := by
  intro journal other spares otherSpares world twin same
  have silent : journal = other := by
    funext note world
    rw [spares note world, otherSpares note world]
  rw [silent, same]
  exact ⟨rfl, rfl, rfl⟩

end Act.Unaware

/-- Collaborators that do not see the log files in use, which hold the only difference between
worlds that count as the same. -/
structure Environment.Unaware (env : Environment World Engine Value)
    (Same : World → World → Prop) (InUse : Nat → Prop) : Prop where
  equivalence : Equivalence Same
  append : ∀ handle, InUse handle → ∀ line world, Same (env.append handle line world) world
  read : ∀ path, Act.Unaware Same (env.files.read path)
  isFile : ∀ path, Act.Unaware Same (env.files.isFile path)
  list : ∀ path, Act.Unaware Same (env.files.list path)
  host : ∀ unit, Act.Unaware Same (env.host unit)
  instantiate : Act.Unaware Same env.engines.instantiate
  load : ∀ module engine, Act.Unaware Same (env.engines.load module engine)
  invoke : ∀ exportName engine, Act.Unaware Same (env.engines.invoke exportName engine)
  release : ∀ engine, Act.Unaware Same (env.engines.release engine)

theorem Environment.unaware_eq (env : Environment World Engine Value) {InUse : Nat → Prop}
    (traceless : ∀ handle, InUse handle → ∀ line world, env.append handle line world = world) :
    env.Unaware Eq InUse where
  equivalence := ⟨fun _ => rfl, Eq.symm, Eq.trans⟩
  append := traceless
  read := fun _ => .of_eq _
  isFile := fun _ => .of_eq _
  list := fun _ => .of_eq _
  host := fun _ => .of_eq _
  instantiate := .of_eq _
  load := fun _ _ => .of_eq _
  invoke := fun _ _ => .of_eq _
  release := fun _ => .of_eq _

namespace Environment.Unaware

variable {env : Environment World Engine Value} {Same : World → World → Prop}
  {InUse : Nat → Prop}

theorem session (unaware : env.Unaware Same InUse) (module : Bytes) (exportName : String)
    (unit : SourceUnit) (engine : Engine) :
    Act.Unaware Same (Compiler.session env.engines module exportName unit engine) := by
  refine (unaware.load module engine).bind ?_
  rintro ⟨loaded, engine⟩
  cases loaded with
  | error fault => exact .pure _
  | ok _ => exact (unaware.invoke exportName _).bind fun _ => .pure _

theorem announce (unaware : env.Unaware Same InUse) (unit : SourceUnit)
    (result : Except CompileError Bytes) :
    Act.Unaware Same (Compiler.announce unit result) := by
  cases result with
  | error error => exact .pure _
  | ok compiled => exact .note unaware.equivalence _ _ _

theorem compile (unaware : env.Unaware Same InUse) (module : Bytes) (exportName : String)
    (unit : SourceUnit) :
    Act.Unaware Same (Compiler.ofModule env.engines module exportName unit) := by
  refine unaware.instantiate.bind fun started => ?_
  cases started with
  | error fault => exact .pure _
  | ok fresh =>
      refine (unaware.session module exportName unit fresh).bind ?_
      rintro ⟨result, engine⟩
      refine (unaware.announce unit result).bind fun _ => ?_
      exact (unaware.release engine).bind fun _ => .pure _

theorem call (unaware : env.Unaware Same InUse) (entryExport : String) (module : Bytes)
    (engine : Engine) : Act.Unaware Same (Trial.call env.engines entryExport module engine) := by
  refine (unaware.load module engine).bind ?_
  rintro ⟨loaded, engine⟩
  cases loaded with
  | error fault => exact .pure _
  | ok _ =>
      refine (unaware.invoke entryExport engine).bind ?_
      rintro ⟨result, engine⟩
      cases result with
      | error fault => exact .pure _
      | ok value =>
          dsimp only
          cases env.engines.marshal engine value <;> exact .pure _

theorem attempt (unaware : env.Unaware Same InUse) {compiler : Compiler World}
    (compiles : ∀ unit, Act.Unaware Same (compiler unit)) (toolchain : Toolchain)
    (test : TestCase) :
    Act.Unaware Same (Trial.attempt env.engines compiler toolchain test) := by
  have tries (engine : Engine) : Act.Unaware Same
      (Trial.compileAndCall env.engines compiler toolchain.entryExport test engine) := by
    refine (compiles test.source).bind fun compiled => ?_
    cases compiled with
    | error error => exact .pure _
    | ok module => exact unaware.call _ _ _
  refine Act.Unaware.bind (unaware.instantiate.bind fun started => ?_) fun _ => .pure _
  cases started with
  | error fault => exact .pure _
  | ok fresh =>
      refine (tries _).bind ?_
      rintro ⟨result, engine⟩
      exact (unaware.release engine).bind fun _ => .pure _

theorem discover (unaware : env.Unaware Same InUse) (layout : CorpusLayout) :
    Act.Unaware Same (Corpus.discover env.files layout) := by
  have related : env.files.Related (fun {α} (action _ : Act World α) => Act.Unaware Same action)
      env.files := ⟨unaware.read, unaware.isFile, unaware.list⟩
  exact related.discover ⟨Act.Unaware.pure, Act.Unaware.bind⟩ layout

end Environment.Unaware

end Bootstrap
