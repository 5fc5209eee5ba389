import Mathlib.Data.List.Nodup
import Bootstrap.Proofs.Discovery
import Bootstrap.Proofs.FileNames
import Bootstrap.Proofs.ToyWorld

/-!
The tests that a corpus directory holds: one for each listed file with the source extension, in the
order of their names, each with its own source and the input that stands beside it.
-/

namespace Bootstrap

section

variable {World α β : Type}

/-- In worlds of a kind, which logging does not leave, an action always gives the same answer. -/
def Act.Gives (Holds : World → Prop) (action : Act World α) (answer : α) : Prop :=
  ∀ journal, (∀ note world, Holds world → Holds (journal note world)) →
    ∀ world, Holds world →
      (action journal world).answer = answer ∧ Holds (action journal world).world

theorem Act.Gives.congruence (Holds : World → Prop) :
    Act.Congruence fun {α} (action : Act World α) (model : Act Unit α) =>
      Gives Holds action (model.alone ()).answer where
  pure := fun _ _ _ _ holds => ⟨rfl, holds⟩
  bind := by
    intro α β first model next modelNext begins goes journal keeps world holds
    obtain ⟨answer, still⟩ := begins journal keeps world holds
    obtain ⟨final, after⟩ := goes _ journal keeps _ still
    have same : ((first >>= next) journal world).answer =
        (next (first journal world).answer journal (first journal world).world).answer := rfl
    refine ⟨?_, after⟩
    rw [same, final, answer]
    rfl

structure Files.Shows (files : Files World) (Holds : World → Prop) (content : Content) : Prop where
  read : ∀ path, Act.Gives Holds (files.read path) (content.read path)
  isFile : ∀ path, Act.Gives Holds (files.isFile path) (content.isFile path)
  list : ∀ path, Act.Gives Holds (files.list path) (content.list path)

theorem Files.Shows.discover {files : Files World} {Holds : World → Prop} {content : Content}
    (shows_ : files.Shows Holds content) (layout : CorpusLayout) :
    Act.Gives Holds (Corpus.discover files layout) (content.discover layout) := by
  have related : files.Related (fun {α} (action : Act World α) (model : Act Unit α) =>
      Act.Gives Holds action (model.alone ()).answer) content.files :=
    ⟨shows_.read, shows_.isFile, shows_.list⟩
  exact related.discover (Act.Gives.congruence Holds) layout

namespace Content

/-- What becomes of a test whose source and input belong to two paths. The source is needed before
the input, and the input only if it is a file. -/
inductive Yields (content : Content) (name : String) (source input : Path) :
    Except CorpusError TestCase → Prop
  | noSource {error : FileError} (failed : content.read source = .error error) :
      Yields content name source input (.error (.unreadable source error))
  | noInput {bytes : Bytes} {error : FileError} (read : content.read source = .ok bytes)
      (present : content.isFile input = true) (failed : content.read input = .error error) :
      Yields content name source input (.error (.unreadable input error))
  | alone {bytes : Bytes} (read : content.read source = .ok bytes)
      (absent : content.isFile input = false) :
      Yields content name source input (.ok ⟨name, ⟨name, source, bytes⟩, none⟩)
  | supplied {bytes given : Bytes} (read : content.read source = .ok bytes)
      (present : content.isFile input = true) (fetched : content.read input = .ok given) :
      Yields content name source input (.ok ⟨name, ⟨name, source, bytes⟩, some given⟩)

/-- A listed name is that of a test, and this is what becomes of it. -/
structure IsTest (content : Content) (layout : CorpusLayout) (base listed : String)
    (result : Except CorpusError TestCase) : Prop where
  isFile : content.isFile ⟨base ++ listed⟩ = true
  yields : ∃ stem, Path.Splits listed stem layout.sourceExtension ∧
    content.Yields stem ⟨base ++ listed⟩ ⟨base ++ Path.sibling stem layout.inputExtension⟩ result

structure Lists (content : Content) (dir : Path) (base : String) (names : List String) : Prop where
  listed : content.list dir = .ok (names.map fun name => ⟨base ++ name⟩)
  isBase : Path.IsBase base
  areNames : ∀ name ∈ names, Path.IsFileName name
  distinct : names.Nodup

def readCase (content : Content) (layout : CorpusLayout) (name : String) (path : Path) :
    Result CorpusError TestCase :=
  ((Corpus.readCase content.files layout name path).alone ()).answer

def readCases (content : Content) (layout : CorpusLayout) (paths : List Path) :
    Result CorpusError (List TestCase) :=
  ((Corpus.readCases content.files layout paths).alone ()).answer

section

variable {content : Content} {layout : CorpusLayout}

theorem Yields.unique {name : String} {source input : Path}
    {result other : Except CorpusError TestCase} (yields : content.Yields name source input result)
    (yieldsOther : content.Yields name source input other) : result = other := by
  cases yields <;> cases yieldsOther <;> simp_all

theorem Yields.described {name : String} {source input : Path} {test : TestCase}
    (yields : content.Yields name source input (.ok test)) :
    test.name = name ∧ test.source.path = source := by
  cases yields <;> exact ⟨rfl, rfl⟩

theorem IsTest.named {base listed : String} {test : TestCase}
    (isTest : content.IsTest layout base listed (.ok test)) :
    listed = test.name ++ "." ++ layout.sourceExtension := by
  obtain ⟨_, stem, splits, yields⟩ := isTest
  rw [yields.described.1]
  exact splits.whole

end

end Content

namespace Content

variable {content : Content} {layout : CorpusLayout} {base : String} {names : List String}

end Content

end

namespace Toy

def paired : FileMap :=
  .ofList [(⟨"tests/a.b.src"⟩, [1]), (⟨"tests/a.b.in"⟩, [2]), (⟨"tests/a-.src"⟩, [3]),
    (⟨"tests/.src"⟩, [4]), (⟨"tests/dir.src/inner.src"⟩, [5])]

def dotted : FileMap :=
  .ofList [(⟨"tests/..src"⟩, [1]), (⟨"tests/..in"⟩, [2])]

end Toy

end Bootstrap
