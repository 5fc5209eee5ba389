import Mathlib.Data.List.TakeWhile
import Bootstrap.Proofs.FileNames
import Bootstrap.Toy.World

/-!
When a search for tests crashes instead of answering. It does with an input extension that holds a
slash, as soon as the files show a source that can be read; every other search finds tests or names
a path that the files refused.
-/

namespace Bootstrap

namespace Path

theorem notMem_of_extension? {path : Path} {extension : String}
    (ends : path.extension? = some extension) :
    '/' ∉ extension.toList ∧ '.' ∉ extension.toList := by
  obtain ⟨name, named, split⟩ := Option.bind_eq_some_iff.mp ends
  have splits := splits_of_splitName split
  refine ⟨fun slash => ?_, splits.last⟩
  have inName : '/' ∈ name.toList := by
    rw [splits.whole, String.toList_append]
    exact List.mem_append_right _ slash
  rw [fileName?] at named
  split at named
  next => cases named
  next =>
    rw [← Option.some.inj named, String.toList_ofList, List.mem_reverse] at inName
    have kept := List.mem_takeWhile_imp inName
    simp at kept

end Path

namespace Corpus

variable {World : Type} (files : Files World) (layout : CorpusLayout) (journal : Journal World)

/-- The files refuse a path, when it is listed or when it is read. -/
def Refused (path : Path) (error : FileError) : Prop :=
  ∃ world, (files.list path journal world).answer = .error error ∨
    (files.read path journal world).answer = .error error

/-- How reading a test can end: without its source, in a crash, without its input, or well. -/
inductive CaseEnds (path : Path) (world : World) : Result CorpusError TestCase → Prop
  | noSource {error} : (files.read path journal world).answer = .error error →
      CaseEnds path world (.error (.unreadable path error))
  | crashed {bytes} : (files.read path journal world).answer = .ok bytes →
      '/' ∈ layout.inputExtension.toList → CaseEnds path world .crash
  | noInput {input error} : '/' ∉ layout.inputExtension.toList →
      Refused files journal input error → CaseEnds path world (.error (.unreadable input error))
  | read {test} : '/' ∉ layout.inputExtension.toList → CaseEnds path world (.ok test)

/-- Of paths that are looked at one after the other, one is a source and can be read. The paths
before it are passed over: they are no files, or not named as sources are. -/
inductive ReachesSource : World → List Path → Prop
  | here {world path paths name bytes} : (files.isFile path journal world).answer = true →
      testName? layout path = some name →
      (files.read path journal (files.isFile path journal world).world).answer = .ok bytes →
      ReachesSource world (path :: paths)
  | later {world path paths} :
      (files.isFile path journal world).answer = false ∨ testName? layout path = none →
      ReachesSource (files.isFile path journal world).world paths →
      ReachesSource world (path :: paths)

/-- The files list the corpus directory, and of the listed paths one is a source and can be read. -/
def ShowsSource (world : World) : Prop :=
  ∃ paths, (files.list layout.dir journal world).answer = .ok paths ∧
    ReachesSource files layout journal (files.list layout.dir journal world).world paths

/-- How a search can end: in a crash, with an answer, or with a path that the files refused. -/
inductive Ends {α : Type} : Result CorpusError α → Prop
  | crashed : Ends .crash
  | found (answer : α) : Ends (.ok answer)
  | refused {path error} : Refused files journal path error → Ends (.error (.unreadable path error))

section

variable {files layout journal}

theorem Ends.map {α β : Type} {answer : Result CorpusError α}
    (ends : Ends files journal answer) (change : α → β) :
    Ends files journal (answer.map change) := by
  cases ends with
  | crashed => exact .crashed
  | found answer => exact .found (change answer)
  | refused refused => exact .refused refused

theorem reachesSource_passing {path : Path} {paths : List Path} {world : World}
    (passed : (files.isFile path journal world).answer = false ∨ testName? layout path = none) :
    ReachesSource files layout journal world (path :: paths) ↔
      ReachesSource files layout journal (files.isFile path journal world).world paths := by
  refine ⟨fun reached => ?_, .later passed⟩
  cases reached with
  | here isFile named => simp [isFile, named] at passed
  | later _ reached => exact reached

theorem reachesSource_at {path : Path} {paths : List Path} {world : World} {name : String}
    (isFile : (files.isFile path journal world).answer = true)
    (named : testName? layout path = some name) :
    ReachesSource files layout journal world (path :: paths) ↔
      ∃ bytes, (files.read path journal (files.isFile path journal world).world).answer =
        .ok bytes := by
  refine ⟨fun reached => ?_, fun ⟨bytes, read⟩ => .here isFile named read⟩
  cases reached with
  | here _ _ read => exact ⟨_, read⟩
  | later passed => simp [isFile, named] at passed

theorem notMem_of_reachesSource {paths : List Path} {world : World}
    (reached : ReachesSource files layout journal world paths) :
    '/' ∉ layout.sourceExtension.toList ∧ '.' ∉ layout.sourceExtension.toList := by
  induction reached with
  | here _ named _ =>
      rw [testName?] at named
      split at named
      next ends => exact Path.notMem_of_extension? ends
      next => cases named
  | later _ _ ih => exact ih

end

theorem readInput_ends (path : Path) (world : World) :
    (∃ input, (readInput files path journal world).answer = .ok input) ∨
      ∃ error, (readInput files path journal world).answer = .error (.unreadable path error) ∧
        Refused files journal path error := by
  rw [readInput, Act.answer_bind]
  cases (files.isFile path journal world).answer with
  | false => exact .inl ⟨none, rfl⟩
  | true =>
      rw [if_pos rfl, Act.answer_bind]
      cases read : (files.read path journal (files.isFile path journal world).world).answer with
      | ok content => exact .inl ⟨some content, rfl⟩
      | error error => exact .inr ⟨error, rfl, _, .inr read⟩

theorem readCase_ends (name : String) (path : Path) (world : World) :
    CaseEnds files layout journal path world
      (readCase files layout name path journal world).answer := by
  rw [readCase, Act.answer_bind]
  cases source : (files.read path journal world).answer with
  | error error => exact .noSource source
  | ok bytes =>
      dsimp only
      split
      next split => exact .crashed source (by simpa using split)
      next whole =>
        have noSlash : '/' ∉ layout.inputExtension.toList := by simpa using whole
        rw [Act.answer_bind]
        rcases readInput_ends files journal (path.withExtension layout.inputExtension)
          (files.read path journal world).world with ⟨input, given⟩ | ⟨error, failed, refused⟩
        · rw [given]
          exact .read noSlash
        · rw [failed]
          exact .noInput noSlash refused

theorem answer_readCases_cons (path : Path) (paths : List Path) (world : World) :
    (((files.isFile path journal world).answer = false ∨ testName? layout path = none) ∧
      (readCases files layout (path :: paths) journal world).answer =
        (readCases files layout paths journal (files.isFile path journal world).world).answer) ∨
    ∃ name result later, (files.isFile path journal world).answer = true ∧
      testName? layout path = some name ∧
      CaseEnds files layout journal path (files.isFile path journal world).world result ∧
      (readCases files layout (path :: paths) journal world).answer =
        result.bind fun first =>
          ((readCases files layout paths journal later).answer).map (first :: ·) := by
  rw [readCases, Act.answer_bind]
  cases isFile : (files.isFile path journal world).answer with
  | false => exact .inl ⟨.inl rfl, rfl⟩
  | true =>
      cases named : testName? layout path with
      | none => exact .inl ⟨.inr rfl, rfl⟩
      | some name =>
          let present := (files.isFile path journal world).world
          refine .inr ⟨name, (readCase files layout name path journal present).answer,
            (readCase files layout name path journal present).world, rfl, rfl,
            readCase_ends files layout journal name path present, ?_⟩
          rw [if_pos rfl]
          dsimp only
          rw [Act.answer_bind]
          cases (readCase files layout name path journal present).answer with
          | error error => rfl
          | crash => rfl
          | ok first => rfl

theorem readCases_crashes_iff (paths : List Path) (world : World) :
    (readCases files layout paths journal world).answer = .crash ↔
      '/' ∈ layout.inputExtension.toList ∧ ReachesSource files layout journal world paths := by
  induction paths generalizing world with
  | nil =>
      constructor
      · intro crashed
        cases crashed
      · rintro ⟨-, reached⟩
        cases reached
  | cons path paths ih =>
      rcases answer_readCases_cons files layout journal path paths world with
        ⟨passed, same⟩ | ⟨name, result, later, isFile, named, ends, same⟩
      · rw [same, ih, reachesSource_passing passed]
      · rw [same, reachesSource_at isFile named]
        cases ends with
        | noSource failed => simp [failed]
        | crashed read slash => simp [slash, read]
        | noInput noSlash refused => simp [noSlash]
        | @read first noSlash =>
            -- without a slash, the tests behind this one do not crash either
            have goesOn := ih later
            simp only [noSlash, false_and, iff_false] at goesOn ⊢
            simpa using goesOn

theorem readCases_ends (paths : List Path) (world : World) :
    Ends files journal (readCases files layout paths journal world).answer := by
  induction paths generalizing world with
  | nil => exact .found []
  | cons path paths ih =>
      rcases answer_readCases_cons files layout journal path paths world with
        ⟨-, same⟩ | ⟨name, result, later, -, -, ends, same⟩
      · rw [same]
        exact ih _
      · rw [same]
        cases ends with
        | noSource failed => exact .refused ⟨_, .inr failed⟩
        | crashed => exact .crashed
        | noInput _ refused => exact .refused refused
        | @read first => exact (ih later).map (first :: ·)

theorem answer_discover (world : World) :
    (∃ error, (files.list layout.dir journal world).answer = .error error ∧
      (discover files layout journal world).answer = .error (.unreadable layout.dir error)) ∨
    ∃ paths, (files.list layout.dir journal world).answer = .ok paths ∧
      (discover files layout journal world).answer =
        ((readCases files layout paths journal
          (files.list layout.dir journal world).world).answer).map sortByName := by
  rw [discover, Act.answer_bind]
  cases listed : (files.list layout.dir journal world).answer with
  | error error => exact .inl ⟨error, rfl, rfl⟩
  | ok paths =>
      exact .inr ⟨paths, rfl, rfl⟩

theorem discover_crashes (world : World) :
    (discover files layout journal world).answer = .crash ↔
      '/' ∈ layout.inputExtension.toList ∧ ShowsSource files layout journal world := by
  rcases answer_discover files layout journal world with
    ⟨error, listed, same⟩ | ⟨paths, listed, same⟩
  · rw [same]
    simp [ShowsSource, listed]
  · have crashes := readCases_crashes_iff files layout journal paths
      (files.list layout.dir journal world).world
    rw [same, ShowsSource, listed]
    simp only [Except.ok.injEq, exists_eq_left', ← crashes]
    exact Result.map_eq_crash_iff _ _

theorem discover_ends (world : World) :
    Ends files journal (discover files layout journal world).answer := by
  rcases answer_discover files layout journal world with
    ⟨error, listed, same⟩ | ⟨paths, listed, same⟩
  · rw [same]
    exact .refused ⟨world, .inl listed⟩
  · rw [same]
    exact (readCases_ends files layout journal paths _).map sortByName

def lonely (path : Path) : Files Unit where
  read := fun _ => pure (.ok [])
  isFile := fun _ => pure true
  list := fun _ => pure (.ok [path])

theorem showsSource_lonely (noSlash : '/' ∉ layout.sourceExtension.toList)
    (noDot : '.' ∉ layout.sourceExtension.toList) (journal : Journal Unit) :
    ShowsSource (lonely ⟨"a." ++ layout.sourceExtension⟩) layout journal () := by
  have splits : Path.Splits ("a." ++ layout.sourceExtension) "a" layout.sourceExtension :=
    ⟨rfl, by decide, noDot⟩
  have long : 1 < ("a." ++ layout.sourceExtension).toList.length := by simp
  have isFileName : Path.IsFileName ("a." ++ layout.sourceExtension) := by
    refine ⟨⟨?_, ?_, ?_⟩, ?_⟩
    · simp
    · simpa using noSlash
    · intro dot
      simp [dot] at long
    · intro dots
      have first := congrArg (fun text => text.toList.head?) dots
      simp at first
  have isBase : Path.IsBase "" := by simp [Path.IsBase]
  have ends := (Path.splits_iff isBase isFileName "a" layout.sourceExtension).mp splits
  rw [String.empty_append] at ends
  have named : testName? layout ⟨"a." ++ layout.sourceExtension⟩ = some "a" := by
    rw [testName?, if_pos ends.1, ends.2]
  exact ⟨_, rfl, .here rfl named rfl⟩

/-- A search crashes exactly if the input extension holds a slash and the files show a source; it
finds tests or names a refused path otherwise. Some files make it crash exactly for the layouts
whose input extension holds a slash and whose source extension a file can have. -/
theorem discover_crashes_iff (layout : CorpusLayout) :
    (∀ (World : Type) (files : Files World) (journal : Journal World) (world : World),
      ((discover files layout journal world).answer = .crash ↔
        '/' ∈ layout.inputExtension.toList ∧ ShowsSource files layout journal world) ∧
      Ends files journal (discover files layout journal world).answer) ∧
    ((∃ (World : Type) (files : Files World) (journal : Journal World) (world : World),
        (discover files layout journal world).answer = .crash) ↔
      '/' ∈ layout.inputExtension.toList ∧ '/' ∉ layout.sourceExtension.toList ∧
        '.' ∉ layout.sourceExtension.toList) := by
  refine ⟨fun World files journal world => ⟨discover_crashes files layout journal world,
    discover_ends files layout journal world⟩, ?_⟩
  constructor
  · rintro ⟨World, files, journal, world, crashed⟩
    obtain ⟨slash, paths, -, reached⟩ := (discover_crashes files layout journal world).mp crashed
    exact ⟨slash, notMem_of_reachesSource reached⟩
  · rintro ⟨slash, noSlash, noDot⟩
    refine ⟨Unit, lonely ⟨"a." ++ layout.sourceExtension⟩, fun _ world => world, (), ?_⟩
    exact (discover_crashes _ layout _ ()).mpr ⟨slash, showsSource_lonely layout noSlash noDot _⟩

def nested : CorpusLayout :=
  ⟨⟨"tests"⟩, "src", "in/put"⟩

/-- The search for the only test neither finds it nor names a path that was refused. -/
theorem nested_crashes :
    let found := ((discover Toy.World.access nested).alone
      (.start (.ofList [(⟨"tests/a.src"⟩, [120])]) [])).answer
    found = .crash ∧
      ¬((∃ tests, found = .ok tests) ∨ ∃ path error, found = .error (.unreadable path error)) := by
  intro found
  have crashed : found = .crash := by decide +kernel
  refine ⟨crashed, ?_⟩
  rw [crashed]
  simp

end Corpus

end Bootstrap
