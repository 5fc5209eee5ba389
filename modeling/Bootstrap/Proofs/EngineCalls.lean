import Bootstrap.Proofs.EngineSurroundings
import Bootstrap.Proofs.WritingTools

/-!
A call of an engine depends on its module, its input and the directories around its files, and on
nothing else: the input is written anew, an earlier result is taken away before the runner starts, and
the runner is a function of what it finds.
-/

namespace Bootstrap

namespace External

/-- The runner is a function of its words, its input, the module and the result that it finds. -/
def Functional (tools : Tools) (runner : Runner) : Prop :=
  ∀ (number : Nat) (exportName : String) (first second : Disk) (input other : Option Nat)
    (module : Node), first.Numbered → second.Numbered →
    let engine := Engine.numbered runner number
    first.lookAt engine.modulePath = .ok module → second.lookAt engine.modulePath = .ok module →
    second.lookAt engine.resultPath = first.lookAt engine.resultPath →
    inputContent other second = inputContent input first →
    let words := runner.command.filled (runnerValues exportName engine)
    Launch.Alike engine.resultPath (tools words input first) (tools words other second)

/-- What a runner finds: a module, an open input with a content, and no result. -/
structure Finds (engine : Engine) (module : Node) (content : Bytes) (input : Option Nat)
    (disk : Disk) : Prop where
  module : disk.lookAt engine.modulePath = .ok module
  opened : disk.numberOf engine.inputPath = .ok input
  read : disk.read engine.inputPath = .ok content
  result : disk.lookAt engine.resultPath = .error .noEntry

section preparing

variable {engine : Engine} {world : World}

theorem prepare_of_write {disk : Disk}
    (done : world.disk.write engine.inputPath engine.input = .ok disk)
    (clears : disk.Clears engine.resultPath) (journal : Journal World) :
    prepare engine journal world =
      prepare.openInput engine journal (world.withDisk (removal engine.resultPath disk)) := by
  cases removed : disk.remove engine.resultPath with
  | ok after =>
      simp [prepare, World.attempt, Act.change, bind, Act.bind, done, World.withDisk, removed,
        removal_of_ok removed]
  | error error =>
      obtain rfl := clears error removed
      simp [prepare, World.attempt, Act.change, bind, Act.bind, done, World.withDisk, removed,
        removal_of_error removed]

theorem openInput_of_numberOf (world : World) {input : Option Nat}
    (opened : world.disk.numberOf engine.inputPath = .ok input) (journal : Journal World) :
    prepare.openInput engine journal world = ⟨.ok input, [], world⟩ := by
  simp [prepare.openInput, World.look, Act.query, bind, Act.bind, pure, Act.pure, opened]

theorem prepare_of_unwritable {error : OsError}
    (refused : world.disk.write engine.inputPath engine.input = .error error)
    (journal : Journal World) : (prepare engine journal world).answer =
      .error (.trap (refusal "cannot write" engine.inputPath error)) := by
  simp [prepare, World.attempt, Act.change, bind, Act.bind, pure, Act.pure, refused]

theorem prepare_of_unremovable {disk : Disk} {error : OsError}
    (done : world.disk.write engine.inputPath engine.input = .ok disk)
    (refused : disk.remove engine.resultPath = .error error) (serious : error ≠ .noEntry)
    (journal : Journal World) : (prepare engine journal world).answer =
      .error (.trap (refusal "cannot remove" engine.resultPath error)) := by
  cases error <;>
    simp_all [prepare, World.attempt, Act.change, bind, Act.bind, pure, Act.pure, World.withDisk]

end preparing

structure Places (engine : Engine) (disk : Disk) (moduleAt inputAt resultAt : Location) : Prop where
  module : disk.locate engine.modulePath = .ok moduleAt
  input : disk.locate engine.inputPath = .ok inputAt
  result : disk.locate engine.resultPath = .ok resultAt
  module_ne_input : moduleAt ≠ inputAt
  module_ne_result : moduleAt ≠ resultAt
  input_ne_result : inputAt ≠ resultAt

section places

variable {runner : Runner} {number : Nat} {engine : Engine} {moduleAt inputAt resultAt : Location}

theorem exists_locate_own {path other : Path} {disk : Disk} {location : Location}
    (own : path ∈ (Engine.numbered runner number).paths)
    (ownToo : other ∈ (Engine.numbered runner number).paths)
    (located : disk.locate path = .ok location) : ∃ place, disk.locate other = .ok place := by
  obtain ⟨ending, -, mine⟩ := locate_own disk own
  obtain ⟨final, -, theirs⟩ := locate_own disk ownToo
  cases entered : disk.entrance runner.workDir with
  | error error => simp [mine, entered, Except.map] at located
  | ok directory =>
      rw [theirs, entered]
      exact ⟨_, rfl⟩

theorem modulePath_own (own : engine.paths = (Engine.numbered runner number).paths) :
    engine.modulePath = (Engine.numbered runner number).modulePath := by
  simp only [Engine.paths, List.cons.injEq] at own
  exact own.1

theorem paths_distinct (own : engine.paths = (Engine.numbered runner number).paths) :
    engine.modulePath ≠ engine.inputPath ∧ engine.modulePath ≠ engine.resultPath ∧
      engine.inputPath ≠ engine.resultPath := by
  have distinct : engine.paths.Nodup := by
    rw [own]
    exact (paths_nodup runner (Nat.ne_of_lt (Nat.lt_succ_self number))).of_append_left
  simp only [Engine.paths, List.nodup_cons, List.mem_cons, List.not_mem_nil, or_false, not_or]
    at distinct
  exact ⟨distinct.1.1, distinct.1.2, distinct.2.1⟩

theorem exists_places (own : engine.paths = (Engine.numbered runner number).paths) {disk : Disk}
    (located : disk.locate engine.modulePath = .ok moduleAt) :
    ∃ inputAt resultAt, Places engine disk moduleAt inputAt resultAt := by
  obtain ⟨notInput, notResult, inputNotResult⟩ := paths_distinct own
  obtain ⟨inputAt, input⟩ := exists_locate_own (module_own own) (input_own own) located
  obtain ⟨resultAt, result⟩ := exists_locate_own (module_own own) (result_own own) located
  have apart {path other : Path} (mine : path ∈ (Engine.numbered runner number).paths)
      (theirs : other ∈ (Engine.numbered runner number).paths) (differs : path ≠ other)
      {first second : Location} (there : disk.locate path = .ok first)
      (thereToo : disk.locate other = .ok second) : first ≠ second := by
    rintro rfl
    exact locate_ne mine theirs differs there thereToo
  exact ⟨inputAt, resultAt, located, input, result,
    apart (module_own own) (input_own own) notInput located input,
    apart (module_own own) (result_own own) notResult located result,
    apart (input_own own) (result_own own) inputNotResult input result⟩

theorem Places.akin {path : Path} {first second : Disk} (akin : Disk.Akin path first second)
    (places : Places engine first moduleAt inputAt resultAt) :
    Places engine second moduleAt inputAt resultAt := by
  exact ⟨(akin.locate_ok_iff _ _).mpr places.module, (akin.locate_ok_iff _ _).mpr places.input,
    (akin.locate_ok_iff _ _).mpr places.result, places.module_ne_input, places.module_ne_result,
    places.input_ne_result⟩

theorem exists_finds (own : engine.paths = (Engine.numbered runner number).paths)
    {before written : Disk} (places : Places engine before moduleAt inputAt resultAt)
    (puts : Disk.Puts before inputAt engine.input written)
    (akin : Disk.Akin engine.resultPath before written)
    (free : ∀ other, (removal engine.resultPath written).node? other =
      if other = resultAt then none else written.node? other) {module : Node}
    (found : before.lookAt engine.modulePath = .ok module) {content : Bytes}
    (readable : Disk.contentOf (before.stored inputAt engine.input) = .ok content) :
    ∃ input, Finds engine module content input (removal engine.resultPath written) := by
  have akinToo := Disk.removal_akin written engine.resultPath
  have placed := places.akin akin
  have kept {location : Location} (differs : location ≠ resultAt) :
      (removal engine.resultPath written).sight location = written.sight location := by
    rw [Disk.sight, free, if_neg differs]
    rfl
  have moduleKept : written.sight moduleAt = before.sight moduleAt := by
    rw [Disk.sight, puts.elsewhere places.module_ne_input]
    rfl
  have moduleSeen : (removal engine.resultPath written).lookAt engine.modulePath = .ok module := by
    rw [akinToo.lookAt_eq placed.module (endsInSlash_own (module_own own))
      (kept places.module_ne_result), ← found]
    exact akin.lookAt_eq places.module (endsInSlash_own (module_own own)) moduleKept
  have inputSeen : (removal engine.resultPath written).lookAt engine.inputPath =
      .ok (before.stored inputAt engine.input) := by
    rw [akinToo.lookAt_eq placed.input (endsInSlash_own (input_own own))
      (kept places.input_ne_result)]
    exact puts.lookAt placed.input (endsInSlash_own (input_own own))
  have resultSeen : (removal engine.resultPath written).lookAt engine.resultPath =
      .error .noEntry := by
    rw [Disk.lookAt_of_locate (placed.akin akinToo).result (endsInSlash_own (result_own own)),
      Disk.sight, free, if_pos rfl]
    rfl
  have numbers := (removal engine.resultPath written).numberOf_eq engine.inputPath
  rw [inputSeen] at numbers
  cases opened : (removal engine.resultPath written).numberOf engine.inputPath with
  | error error => simp [opened, Except.bind, Except.map, readable] at numbers
  | ok input =>
      refine ⟨input, moduleSeen, opened, ?_, resultSeen⟩
      rw [Disk.read_eq, inputSeen]
      exact readable

theorem prepare_of_directory_input
    (own : engine.paths = (Engine.numbered runner number).paths) {world : World}
    (places : Places engine world.disk moduleAt inputAt resultAt)
    (taken : world.disk.node? inputAt = some .directory) (journal : Journal World) :
    (prepare engine journal world).answer =
      .error (.trap (refusal "cannot write" engine.inputPath .isADirectory)) :=
  prepare_of_unwritable
    (Disk.write_of_directory places.input (endsInSlash_own (input_own own)) taken) journal

theorem exists_input_written (own : engine.paths = (Engine.numbered runner number).paths)
    {before : Disk} (places : Places engine before moduleAt inputAt resultAt)
    (free : before.node? inputAt ≠ some .directory) :
    ∃ written, Disk.Puts before inputAt engine.input written ∧
      before.write engine.inputPath engine.input = .ok written ∧
      Disk.Akin engine.resultPath before written ∧
      written.node? resultAt = before.node? resultAt := by
  obtain ⟨written, puts⟩ := Disk.exists_puts inputAt engine.input free
  have done : before.write engine.inputPath engine.input = .ok written :=
    Disk.write_eq_ok_iff.mpr ⟨inputAt, places.input, endsInSlash_own (input_own own), puts⟩
  exact ⟨written, puts, done, Disk.write_akin done, puts.elsewhere places.input_ne_result.symm⟩

theorem prepare_of_directory_result
    (own : engine.paths = (Engine.numbered runner number).paths) {world : World}
    (places : Places engine world.disk moduleAt inputAt resultAt)
    (free : world.disk.node? inputAt ≠ some .directory)
    (taken : world.disk.node? resultAt = some .directory) (journal : Journal World) :
    (prepare engine journal world).answer =
      .error (.trap (refusal "cannot remove" engine.resultPath .isADirectory)) := by
  obtain ⟨written, -, done, akin, same⟩ := exists_input_written own places free
  have refused := Disk.remove_of_directory (places.akin akin).result (same.trans taken)
  exact prepare_of_unremovable done refused (by decide) journal

theorem prepare_finds (own : engine.paths = (Engine.numbered runner number).paths) {world : World}
    (places : Places engine world.disk moduleAt inputAt resultAt)
    (freeInput : world.disk.node? inputAt ≠ some .directory)
    (freeResult : world.disk.node? resultAt ≠ some .directory) {module : Node}
    (found : world.disk.lookAt engine.modulePath = .ok module) {content : Bytes}
    (readable : Disk.contentOf (world.disk.stored inputAt engine.input) = .ok content)
    (journal : Journal World) : ∃ input, (prepare engine journal world).answer = .ok input ∧
      Finds engine module content input (prepare engine journal world).world.disk := by
  obtain ⟨written, puts, done, akin, same⟩ := exists_input_written own places freeInput
  have stillFree : written.node? resultAt ≠ some .directory := by
    rwa [same]
  obtain ⟨clears, gone⟩ := Disk.removal_of_free (places.akin akin).result
    (endsInSlash_own (result_own own)) stillFree
  obtain ⟨input, finds⟩ := exists_finds own places puts akin gone found readable
  have prepared := prepare_of_write done clears journal
  rw [openInput_of_numberOf (world.withDisk (removal engine.resultPath written)) finds.opened]
    at prepared
  refine ⟨input, ?_⟩
  rw [prepared]
  exact ⟨rfl, finds⟩

theorem Finds.logged {isLog : Nat → Prop}
    (own : engine.paths = (Engine.numbered runner number).paths) {before after : Disk}
    (fit : Fit isLog runner number before) (logged : Disk.Logged isLog before after) {module : Node}
    {content : Bytes} {input : Option Nat} (finds : Finds engine module content input before) :
    Finds engine module content input after := by
  obtain ⟨moduleAt, located, -⟩ := Disk.exists_locate_of_lookAt finds.module
  obtain ⟨inputAt, resultAt, places⟩ := exists_places own located
  obtain ⟨-, moduleNotResult, inputNotResult⟩ := paths_distinct own
  rw [resultPath_own own] at moduleNotResult inputNotResult
  have moduleKept := logged.look_eq places.module
    (fit.apart _ (module_own own) moduleNotResult moduleAt · · places.module)
  have inputKept := logged.look_eq places.input
    (fit.apart _ (input_own own) inputNotResult inputAt · · places.input)
  have absent : before.node? resultAt = none := by
    have result := finds.result
    rw [Disk.lookAt_of_locate places.result (endsInSlash_own (result_own own)), Disk.sight] at result
    cases there : before.node? resultAt with
    | none => rfl
    | some node => simp [there] at result
  -- No file is there, and so no log file.
  have resultKept := logged.look_eq places.result (by simp [absent])
  constructor
  · rw [Disk.lookAt, moduleKept]
    exact finds.module
  · rw [Disk.numberOf, inputKept]
    exact finds.opened
  · rw [Disk.read, inputKept]
    exact finds.read
  · rw [Disk.lookAt, resultKept]
    exact finds.result

end places

section calling

variable {tools : Tools} {runner : Runner} {number : Nat} {engine : Engine} {world : World}

theorem call_answer_of_fault (tools : Tools) (runner : Runner) (exportName : String)
    {journal : Journal World} {fault : Fault}
    (failed : (prepare engine journal world).answer = .error fault) :
    (call tools runner exportName engine journal world).answer = (.error fault, engine) := by
  simp [call, bind, Act.bind, failed, pure, Act.pure]

theorem collectResult_quiet (exportName : String) (launch : Launch) (journal : Journal World) :
    collectResult runner exportName engine launch journal world =
      (collectResult runner exportName engine launch).alone world := by
  cases launch with
  | refused error => rfl
  | finished finish =>
      simp only [collectResult]
      split <;> rfl

def runnerNote (runner : Runner) (exportName : String) (engine : Engine) : Note :=
  ⟨.debug, Log.Target.processEngine,
    "runner: " ++ runner.command.line (runnerValues exportName engine)⟩

theorem call_answer_of_ok (tools : Tools) (runner : Runner) (exportName : String)
    {journal : Journal World} {input : Option Nat}
    (ready : (prepare engine journal world).answer = .ok input) :
    let told := journal (runnerNote runner exportName engine) (prepare engine journal world).world
    let words := runner.command.filled (runnerValues exportName engine)
    (call tools runner exportName engine journal world).answer =
      ((collectResult runner exportName engine (tools words input told.disk)).alone
        ((World.launch tools words input).alone told).world).answer := by
  intro told words
  simp only [call, bind, Act.bind, ready, collectResult_quiet]
  rw [← launch_answer tools words input told]
  rfl

theorem Finds.inputContent {module : Node} {content : Bytes} {input : Option Nat} {disk : Disk}
    (finds : Finds engine module content input disk) (numbered : disk.Numbered) :
    inputContent input disk = content := by
  have read := Disk.read_of_numberOf numbered finds.opened
  rw [finds.read] at read
  exact (Except.ok.inj read).symm

theorem launch_alike (functional : Functional tools runner)
    (own : engine.paths = (Engine.numbered runner number).paths) {module : Node} {content : Bytes}
    {first second : Disk} {input other : Option Nat}
    (finds : Finds engine module content input first) (numbered : first.Numbered)
    (findsToo : Finds engine module content other second) (numberedToo : second.Numbered)
    (exportName : String) :
    let words := runner.command.filled (runnerValues exportName engine)
    Launch.Alike (Engine.numbered runner number).resultPath (tools words input first)
      (tools words other second) := by
  have contents : External.inputContent other second = External.inputContent input first := by
    rw [finds.inputContent numbered, findsToo.inputContent numberedToo]
  have results := findsToo.result.trans finds.result.symm
  have modules := finds.module
  have modulesToo := findsToo.module
  rw [runnerValues_own own]
  rw [resultPath_own own] at results
  rw [modulePath_own own] at modules modulesToo
  exact functional number exportName first second input other module numbered numberedToo modules
    modulesToo results contents

section pairs

variable {isLog isLogToo : Nat → Prop} {journal other : Journal World} (first second : World)
  (functional : Functional tools runner)
  (own : engine.paths = (Engine.numbered runner number).paths) (logs : LogsTo isLog journal)
  (logsToo : LogsTo isLogToo other) (fit : Fit isLog runner number first.disk)
  (fitToo : Fit isLogToo runner number second.disk)

include functional own logs logsToo fit fitToo

theorem call_answer_of_finds {module : Node} {content : Bytes} {input inputToo : Option Nat}
    (ready : (prepare engine journal first).answer = .ok input)
    (finds : Finds engine module content input (prepare engine journal first).world.disk)
    (readyToo : (prepare engine other second).answer = .ok inputToo)
    (findsToo : Finds engine module content inputToo (prepare engine other second).world.disk)
    (exportName : String) :
    (call tools runner exportName engine other second).answer =
      (call tools runner exportName engine journal first).answer := by
  let note := runnerNote runner exportName engine
  obtain ⟨-, prepared, -⟩ := prepare_safe own journal logs first fit
  obtain ⟨-, preparedToo, -⟩ := prepare_safe own other logsToo second fitToo
  have told := logs note (prepare engine journal first).world
  have toldToo := logsToo note (prepare engine other second).world
  have alike := launch_alike functional own
    (finds.logged own prepared told) (told.numbered prepared.numbered)
    (findsToo.logged own preparedToo toldToo) (toldToo.numbered preparedToo.numbered) exportName
  rw [call_answer_of_ok tools runner exportName ready,
    call_answer_of_ok tools runner exportName readyToo]
  refine collectResult_answer own exportName alike ?_ ?_
  · intro finish finished
    exact launch_disk ((launch_answer tools _ _ _).trans finished)
  · intro finish finished
    exact launch_disk ((launch_answer tools _ _ _).trans finished)

theorem call_answer_eq
    (akin : Disk.Akin engine.resultPath first.disk second.disk) {module : Node}
    (found : first.disk.lookAt engine.modulePath = .ok module)
    (foundToo : second.disk.lookAt engine.modulePath = .ok module) (exportName : String) :
    (call tools runner exportName engine other second).answer =
      (call tools runner exportName engine journal first).answer := by
  obtain ⟨moduleAt, located, -⟩ := Disk.exists_locate_of_lookAt found
  obtain ⟨inputAt, resultAt, places⟩ := exists_places own located
  have placesToo := places.akin akin
  -- A directory in the place of the input or of the result is in the way on both disks.
  by_cases takenInput : first.disk.node? inputAt = some .directory
  · have takenInputToo := (akin.directory inputAt).mpr takenInput
    rw [call_answer_of_fault _ _ _ (prepare_of_directory_input own places takenInput journal),
      call_answer_of_fault _ _ _ (prepare_of_directory_input own placesToo takenInputToo other)]
  · have freeToo : second.disk.node? inputAt ≠ some .directory := by
      rwa [Ne, akin.directory]
    by_cases takenResult : first.disk.node? resultAt = some .directory
    · have takenResultToo := (akin.directory resultAt).mpr takenResult
      rw [call_answer_of_fault _ _ _
          (prepare_of_directory_result own places takenInput takenResult journal),
        call_answer_of_fault _ _ _
          (prepare_of_directory_result own placesToo freeToo takenResultToo other)]
    · have freeResultToo : second.disk.node? resultAt ≠ some .directory := by
        rwa [Ne, akin.directory]
      have elsewhere : first.disk.locate engine.resultPath ≠ .ok inputAt := by
        rw [places.result]
        exact fun same => places.input_ne_result (Except.ok.inj same).symm
      -- What is read from the input is what was bound, or nothing if it went to a device.
      obtain ⟨content, readable⟩ := first.disk.exists_contentOf_stored inputAt engine.input
      have readableToo := readable
      rw [← akin.stored_eq elsewhere] at readableToo
      obtain ⟨input, ready, finds⟩ :=
        prepare_finds own places takenInput takenResult found readable journal
      obtain ⟨inputToo, readyToo, findsToo⟩ :=
        prepare_finds own placesToo freeToo freeResultToo foundToo readableToo other
      exact call_answer_of_finds first second functional own logs logsToo fit fitToo ready finds
        readyToo findsToo exportName

end pairs

end calling

end External

end Bootstrap
