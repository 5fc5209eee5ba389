import Bootstrap.Proofs.ReportStream
import Bootstrap.Proofs.Requests
import Bootstrap.Proofs.ToyWorld

/-!
Isolation of tests: what is recorded of a test under a generation depends on these two alone, and
not on the other tests, on what else is selected, or on what has been asked for before.
-/

namespace Bootstrap

def Settings.selecting (settings : Settings) (selection : Selection) : Settings :=
  { settings with selection := selection }

def TestCase.block (record : TestCase → Stage → Outcome) (stages : List Stage)
    (test : TestCase) : List Attempt :=
  stages.map fun stage => ⟨test.name, stage, record test stage⟩

def Session.attempts {World : Type} (session : Session World) : List Attempt :=
  session.entries.filterMap Entry.attempt?

/-- A filter looks at nothing but the name. -/
def Verification.isNamed (filter : Option String) (name : String) : Bool :=
  match filter with
  | some text => Text.contains name text
  | none => true

theorem Verification.isSelected_eq_isNamed (filter : Option String) (test : TestCase) :
    isSelected filter test = isNamed filter test.name := by
  cases filter <;> rfl

theorem TestCase.filter_flatMap_block (record : TestCase → Stage → Outcome) (stages : List Stage)
    (keep : String → Bool) (tests : List TestCase) :
    (tests.flatMap (block record stages)).filter (fun attempt => keep attempt.test) =
      (tests.filter fun test => keep test.name).flatMap (block record stages) := by
  induction tests with
  | nil => rfl
  | cons test rest ih =>
      have own : (block record stages test).filter (fun attempt => keep attempt.test) =
          if keep test.name then block record stages test else [] := by
        unfold block
        rw [List.filter_map]
        cases kept : keep test.name with
        | true => simp [Function.comp_def, kept]
        | false => simp [Function.comp_def, kept]
      rw [List.flatMap_cons, List.filter_append, own, ih, List.filter_cons]
      split <;> rfl

namespace Basis

variable {State Value : Type}

def selecting (basis : Basis State Value) (selection : Selection) : Basis State Value :=
  { basis with settings := basis.settings.selecting selection }

theorem generation_selecting {basis : Basis State Value} {selection : Selection}
    (same : selection.useSnapshot = basis.settings.selection.useSnapshot) (reading : Reading)
    (stage : Stage) :
    (basis.selecting selection).generation reading stage = basis.generation reading stage := by
  induction stage using Stage.ascend with
  | first =>
      have uses : (basis.selecting selection).usesSnapshot = basis.usesSnapshot := same
      simp only [generation_stage0, first, uses]
      rfl
  | next below stage above ih =>
      rw [generation_next _ reading above, generation_next _ reading above, ih]
      cases basis.generation reading below <;> rfl

theorem outcome_selecting {basis : Basis State Value} {selection : Selection}
    (same : selection.useSnapshot = basis.settings.selection.useSnapshot) (reading : Reading)
    (test : TestCase) (stage : Stage) :
    (basis.selecting selection).outcome reading test stage = basis.outcome reading test stage := by
  simp only [outcome, generation_selecting same]
  rfl

theorem attempts_selecting {basis : Basis State Value} {selection : Selection}
    (same : selection.useSnapshot = basis.settings.selection.useSnapshot) (reading : Reading)
    (tests : List TestCase) :
    (basis.selecting selection).attempts reading tests =
      tests.flatMap (TestCase.block (basis.outcome reading) selection.tested) := by
  unfold Basis.attempts
  congr 1
  funext test
  exact List.map_congr_left fun stage _ => by
    simp [attempt, outcome_selecting same]

theorem attempts_filter (basis : Basis State Value) (reading : Reading) (filter : Option String)
    (cases : List TestCase) :
    basis.attempts reading (cases.filter (Verification.isSelected filter)) =
      (basis.attempts reading cases).filter
        fun attempt => Verification.isNamed filter attempt.test := by
  have named : Verification.isSelected filter =
      fun test : TestCase => Verification.isNamed filter test.name :=
    funext (Verification.isSelected_eq_isNamed filter)
  have blocks (tests : List TestCase) : basis.attempts reading tests =
      tests.flatMap (TestCase.block (basis.outcome reading) basis.settings.selection.tested) := rfl
  rw [named, blocks, blocks, TestCase.filter_flatMap_block]

theorem attempts_wholeEntries (basis : Basis State Value) (content : Content)
    (filter : Option String) :
    (basis.wholeEntries content filter).filterMap Entry.attempt? =
      match content.discover basis.settings.corpus with
      | .error _ => []
      | .crash => []
      | .ok cases =>
          basis.attempts (basis.readingOf content.read)
            (cases.filter (Verification.isSelected filter)) := by
  unfold wholeEntries
  cases content.discover basis.settings.corpus with
  | error error => rfl
  | crash => rfl
  | ok cases =>
      simp only [selectedEntries, reportEntries]
      cases basis.verify (basis.readingOf content.read) basis.settings.selection with
      | error error => exact Entry.filterMap_attempt? _ _ _ []
      | ok proof => exact Entry.filterMap_attempt? _ _ _ [proof]

end Basis

/-- The attempts are made test by test, each test's block from that test alone. -/
structure Blockwise (attempts : List TestCase → List Attempt) (block : TestCase → List Attempt) :
    Prop where
  joined : ∀ tests, attempts tests = tests.flatMap block
  permuted : ∀ tests others : List TestCase, tests.Perm others →
    ∃ blocks, (tests.map block).Perm blocks ∧ attempts others = blocks.flatten
  changed : ∀ before test other after, ∃ first last,
    attempts (before ++ test :: after) = first ++ block test ++ last ∧
      attempts (before ++ other :: after) = first ++ block other ++ last

theorem Blockwise.of_joined {attempts : List TestCase → List Attempt}
    {block : TestCase → List Attempt} (joined : ∀ tests, attempts tests = tests.flatMap block) :
    Blockwise attempts block where
  joined := joined
  permuted := fun _ others reordered => ⟨others.map block, reordered.map block, joined others⟩
  changed := fun before test other after =>
    ⟨before.flatMap block, after.flatMap block, by simp [joined], by simp [joined]⟩

section

variable {World Engine State Value : Type} {env : Environment World Engine Value}
  {Fits : World → Ledger Engine State → Prop} {content : Content}

theorem Trials.attempts_after {basis : Basis State Value}
    (settled : Settled env basis.oracle content Fits) (calls : List (Call World))
    (keeps : ∀ call ∈ calls, call.Keeps Fits) {world : World} (logger : Log.Logger)
    (fits : Fits world (.opened [])) (tests : List TestCase) :
    (run env basis.settings tests
        (Call.serveAll env basis.settings calls (.start world logger)).2).1.attempts =
      basis.attempts (basis.readingOf content.read) tests := by
  obtain ⟨_, height, entries, events, shows⟩ :=
    Call.serveAll_steady settled.deterministic calls keeps logger fits
  have leads := run_leads settled.deterministic tests (basis.readingOf content.read) height
  obtain ⟨_, ⟨answered, _⟩, _⟩ := leads.steady entries events _ shows
  rw [answered]
  rfl

theorem Verification.attempts_run {basis : Basis State Value}
    (settled : Settled env basis.oracle content Fits) (filter : Option String) {world : World}
    (logger : Log.Logger) (fits : Fits world (.opened [])) :
    (run env basis.settings filter (.start world logger)).2.attempts =
        (match content.discover basis.settings.corpus with
          | .error _ => []
          | .crash => []
          | .ok cases =>
              basis.attempts (basis.readingOf content.read) (cases.filter (isSelected filter))) ∧
      ∀ summary, (run env basis.settings filter (.start world logger)).1 = .ok summary →
        summary.trials.attempts =
          (run env basis.settings filter (.start world logger)).2.attempts := by
  obtain ⟨answered, entries⟩ := run_start settled filter logger fits
  have reported := basis.attempts_wholeEntries content filter
  unfold Session.attempts
  rw [entries, reported, answered]
  refine ⟨rfl, fun summary ended => ?_⟩
  unfold Basis.wholeRun at ended
  cases found : content.discover basis.settings.corpus with
  | error error => simp [found] at ended
  | crash => simp [found] at ended
  | ok cases =>
      simp only [found, Result.ofExcept_eq_ok_iff, Basis.selectedRun] at ended
      cases proved : basis.verify (basis.readingOf content.read) basis.settings.selection with
      | error error => simp [proved] at ended
      | ok proof =>
          simp only [proved, Except.ok.injEq] at ended
          subst ended
          rfl

theorem Verification.attempts_filtered {basis : Basis State Value}
    (settled : Settled env basis.oracle content Fits) (filter : Option String) {world other : World}
    (logger otherLogger : Log.Logger) (fits : Fits world (.opened []))
    (otherFits : Fits other (.opened [])) :
    (run env basis.settings filter (.start world logger)).2.attempts =
      (run env basis.settings none (.start other otherLogger)).2.attempts.filter
        fun attempt => isNamed filter attempt.test := by
  rw [(attempts_run settled filter logger fits).1, (attempts_run settled none otherLogger otherFits).1]
  cases content.discover basis.settings.corpus with
  | error error => rfl
  | crash => rfl
  | ok cases =>
      have everything : cases.filter (isSelected none) = cases :=
        List.filter_eq_self.mpr fun _ _ => rfl
      dsimp only
      rw [everything]
      exact basis.attempts_filter _ filter cases

theorem Trials.run_isolated {oracle : Oracle State Value}
    (settled : Settled env oracle content Fits) (settings : Settings) :
    ∃ record : TestCase → Stage → Outcome, ∀ selection : Selection,
      selection.useSnapshot = settings.selection.useSnapshot →
      (∀ calls : List (Call World), (∀ call ∈ calls, call.Keeps Fits) →
        ∀ world logger, Fits world (.opened []) →
          Blockwise
            (fun tests => (run env (settings.selecting selection) tests
              (Call.serveAll env (settings.selecting selection) calls
                (.start world logger)).2).1.attempts)
            (TestCase.block record selection.tested)) ∧
      ∀ filter world other logger otherLogger,
        Fits world (.opened []) → Fits other (.opened []) → ∃ answer session,
          Verification.run env (settings.selecting selection) filter (.start world logger) =
            (answer, session) ∧
          (∀ cases,
            ((Corpus.discover env.files settings.corpus).alone world).answer = .ok cases →
              session.attempts = (cases.filter (Verification.isSelected filter)).flatMap
                (TestCase.block record selection.tested)) ∧
          session.attempts =
            (Verification.run env (settings.selecting selection) none
              (.start other otherLogger)).2.attempts.filter
                (fun attempt => Verification.isNamed filter attempt.test) ∧
          ∀ summary, answer = .ok summary → summary.trials.attempts = session.attempts := by
  let basis : Basis State Value := ⟨oracle, settings⟩
  refine ⟨basis.outcome (basis.readingOf content.read), fun selection agreed => ?_⟩
  have same : selection.useSnapshot = basis.settings.selection.useSnapshot := agreed
  have known : Settled env (basis.selecting selection).oracle content Fits := settled
  refine ⟨?_, ?_⟩
  · intro calls keeps world logger fits
    refine Blockwise.of_joined fun tests => ?_
    exact (attempts_after known calls keeps logger fits tests).trans
      (Basis.attempts_selecting same _ tests)
  · intro filter world other logger otherLogger fits otherFits
    obtain ⟨filtered, ended⟩ := Verification.attempts_run known filter logger fits
    have discovered : ((Corpus.discover env.files settings.corpus).alone world).answer =
        content.discover settings.corpus := by
      obtain ⟨_, ⟨found, _⟩, _⟩ := Act.Takes.alone (settled.discover settings.corpus _) fits
      exact found
    refine ⟨_, _, rfl, ?_,
      Verification.attempts_filtered known filter logger otherLogger fits otherFits, ended⟩
    intro cases found
    have listed : content.discover (basis.selecting selection).settings.corpus = .ok cases :=
      discovered.symm.trans found
    refine filtered.trans ?_
    rw [listed]
    exact Basis.attempts_selecting same _ _

end

namespace Toy

def compilerOnly : FileMap :=
  .ofList [(⟨"compiler/compiler.src"⟩, Utf8.encode "compiler x")]

def truth : TestCase :=
  ⟨"truth", ⟨"truth", ⟨"tests/truth.src"⟩, Utf8.encode "test return #t"⟩, none⟩

def broken : TestCase :=
  ⟨"broken", ⟨"broken", ⟨"tests/broken.src"⟩, Utf8.encode "#error"⟩, none⟩

def attemptsAfter (selection : Selection) (calls : List (Call World)) (tests : List TestCase) :
    List Attempt :=
  (Trials.run (environment none false) (Settings.default.selecting selection) tests
    (Call.serveAll (environment none false) (Settings.default.selecting selection) calls
      (.start (World.start compilerOnly []) (Log.Logger.new .info 0))).2).1.attempts

theorem truth_isolated :
    ∃ record : TestCase → Stage → Outcome,
      attemptsAfter .default [] [truth, broken] =
        [truth, broken].flatMap (TestCase.block record Selection.default.tested) ∧
      attemptsAfter (.only false [.stage1]) [.request (.build .stage3)] [truth] =
        [truth].flatMap (TestCase.block record (Selection.only false [.stage1]).tested) := by
  obtain ⟨record, isolated⟩ :=
    Trials.run_isolated (settled none false compilerOnly []) Settings.default
  have everything := (isolated .default rfl).1 [] (by simp) (World.start compilerOnly [])
    (Log.Logger.new .info 0) (frozen_start compilerOnly [])
  have single := (isolated (.only false [.stage1]) rfl).1 [.request (.build .stage3)]
    (by simp [Call.Keeps]) (World.start compilerOnly []) (Log.Logger.new .info 0)
    (frozen_start compilerOnly [])
  exact ⟨record, everything.joined [truth, broken], single.joined [truth]⟩

end Toy

end Bootstrap
