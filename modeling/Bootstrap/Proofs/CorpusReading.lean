import Bootstrap.Corpus

/-!
Two file systems seen through any relation between actions that goes over from the parts of an
action to the whole: where single looks and reads are related, so is finding the tests.
-/

namespace Bootstrap

variable {World Other : Type}

/-- What is related part by part is related. -/
structure Act.Congruence (Rel : ∀ {α : Type}, Act World α → Act Other α → Prop) : Prop where
  pure : ∀ {α : Type} (answer : α), Rel (Pure.pure answer) (Pure.pure answer)
  bind : ∀ {α β : Type} {first : Act World α} {other : Act Other α} {next : α → Act World β}
    {otherNext : α → Act Other β}, Rel first other →
      (∀ answer, Rel (next answer) (otherNext answer)) → Rel (first >>= next) (other >>= otherNext)

structure Files.Related (Rel : ∀ {α : Type}, Act World α → Act Other α → Prop)
    (files : Files World) (others : Files Other) : Prop where
  read : ∀ path, Rel (files.read path) (others.read path)
  isFile : ∀ path, Rel (files.isFile path) (others.isFile path)
  list : ∀ path, Rel (files.list path) (others.list path)

namespace Files.Related

variable {Rel : ∀ {α : Type}, Act World α → Act Other α → Prop} {files : Files World}
  {others : Files Other} (related : files.Related Rel others) (congruence : Act.Congruence Rel)

include related congruence

theorem readInput (path : Path) :
    Rel (Corpus.readInput files path) (Corpus.readInput others path) := by
  refine congruence.bind (related.isFile path) fun isFile => ?_
  cases isFile with
  | false => exact congruence.pure _
  | true =>
      refine congruence.bind (related.read path) fun answer => ?_
      cases answer <;> exact congruence.pure _

theorem readCase (layout : CorpusLayout) (name : String) (path : Path) :
    Rel (Corpus.readCase files layout name path) (Corpus.readCase others layout name path) := by
  refine congruence.bind (related.read path) fun answer => ?_
  cases answer with
  | error error => exact congruence.pure _
  | ok bytes =>
      dsimp only
      split
      · exact congruence.pure _
      · refine congruence.bind (related.readInput congruence _) fun input => ?_
        cases input <;> exact congruence.pure _

theorem readCases (layout : CorpusLayout) (paths : List Path) :
    Rel (Corpus.readCases files layout paths) (Corpus.readCases others layout paths) := by
  induction paths with
  | nil => exact congruence.pure _
  | cons path rest ih =>
      refine congruence.bind (related.isFile path) fun isFile => ?_
      cases if isFile then Corpus.testName? layout path else none with
      | none => exact ih
      | some name =>
          refine congruence.bind (related.readCase congruence layout name path) fun first => ?_
          cases first with
          | error error => exact congruence.pure _
          | crash => exact congruence.pure _
          | ok first => exact congruence.bind ih fun others => congruence.pure _

theorem discover (layout : CorpusLayout) :
    Rel (Corpus.discover files layout) (Corpus.discover others layout) := by
  refine congruence.bind (related.list layout.dir) fun listed => ?_
  cases listed with
  | error error => exact congruence.pure _
  | ok paths =>
      exact congruence.bind (related.readCases congruence layout paths) fun _ => congruence.pure _

end Files.Related

end Bootstrap
