import Bootstrap.Proofs.Climb
import Bootstrap.Proofs.CorpusReading

/-!
Finding the tests in files that stay as they are: every search finds what the files hold.
-/

namespace Bootstrap

structure Content where
  read : Path → Except FileError Bytes
  isFile : Path → Bool
  list : Path → Except FileError (List Path)

namespace Content

def files (content : Content) : Files Unit where
  read := fun path => Act.query fun _ => content.read path
  isFile := fun path => Act.query fun _ => content.isFile path
  list := fun path => Act.query fun _ => content.list path

def discover (content : Content) (layout : CorpusLayout) :
    Result CorpusError (List TestCase) :=
  ((Corpus.discover content.files layout).alone ()).answer

end Content

section

variable {World Engine State Value α β : Type}

/-- An action over the world answers like an action over the content alone, whatever it asks for. -/
def Act.Follows (Fits : World → Ledger Engine State → Prop) (action : Act World α)
    (model : Act Unit α) : Prop :=
  ∀ ledger, Act.Takes Fits ledger action fun answer after =>
    answer = (model.alone ()).answer ∧ ∃ events, after = ledger.add events

namespace Act.Follows

variable {Fits : World → Ledger Engine State → Prop}

theorem pure (answer : α) : Follows Fits (Pure.pure answer) (Pure.pure answer) :=
  fun ledger => Takes.pure ⟨rfl, [], by simp⟩

theorem bind {first : Act World α} {next : α → Act World β} {model : Act Unit α}
    {modelNext : α → Act Unit β} (begins : Follows Fits first model)
    (goes : ∀ answer, Follows Fits (next answer) (modelNext answer)) :
    Follows Fits (first >>= next) (model >>= modelNext) := by
  intro ledger
  refine (begins ledger).bind ?_
  rintro _ _ ⟨rfl, events, rfl⟩
  refine (goes _ _).mono ?_
  rintro _ _ ⟨rfl, further, rfl⟩
  exact ⟨rfl, events ++ further, by simp⟩

theorem congruence :
    Act.Congruence fun {α} (action : Act World α) model => Follows Fits action model :=
  ⟨pure, bind⟩

end Act.Follows

/-- Host and engines answer like the oracle, and the files have the same content all the time. -/
structure Settled (env : Environment World Engine Value) (oracle : Oracle State Value)
    (content : Content) (Fits : World → Ledger Engine State → Prop) : Prop where
  deterministic : Deterministic env oracle (Basis.Steady content.read) Fits
  isFile : ∀ path (ledger : Ledger Engine State),
    Act.Takes Fits ledger (env.files.isFile path) fun answer after =>
      answer = content.isFile path ∧ after = ledger
  list : ∀ path (ledger : Ledger Engine State),
    Act.Takes Fits ledger (env.files.list path) fun answer after =>
      answer = content.list path ∧ after = ledger

namespace Settled

variable {env : Environment World Engine Value} {oracle : Oracle State Value} {content : Content}
  {Fits : World → Ledger Engine State → Prop}

theorem reads (settled : Settled env oracle content Fits) (path : Path) :
    Act.Follows Fits (env.files.read path) (content.files.read path) := by
  intro ledger
  refine (settled.deterministic.read path ledger).mono ?_
  rintro answer _ ⟨same, rfl⟩
  exact ⟨same, _, rfl⟩

theorem looks (settled : Settled env oracle content Fits) (path : Path) :
    Act.Follows Fits (env.files.isFile path) (content.files.isFile path) := by
  intro ledger
  refine (settled.isFile path ledger).mono ?_
  rintro _ _ ⟨rfl, rfl⟩
  exact ⟨rfl, [], by simp⟩

theorem lists (settled : Settled env oracle content Fits) (path : Path) :
    Act.Follows Fits (env.files.list path) (content.files.list path) := by
  intro ledger
  refine (settled.list path ledger).mono ?_
  rintro _ _ ⟨rfl, rfl⟩
  exact ⟨rfl, [], by simp⟩

theorem discover (settled : Settled env oracle content Fits) (layout : CorpusLayout) :
    Act.Follows Fits (Corpus.discover env.files layout) (Corpus.discover content.files layout) :=
  Files.Related.discover ⟨settled.reads, settled.looks, settled.lists⟩ Act.Follows.congruence layout

theorem discovered (settled : Settled env oracle content Fits) (layout : CorpusLayout)
    {world : World} (fits : Fits world (.opened [])) :
    ((Corpus.discover env.files layout).alone world).answer = content.discover layout := by
  obtain ⟨_, ⟨found, _⟩, _⟩ := Act.Takes.alone (settled.discover layout _) fits
  exact found

end Settled

end

end Bootstrap
