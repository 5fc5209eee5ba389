import Bootstrap.Proofs.AttemptCourse
import Bootstrap.Proofs.Numerals
import Bootstrap.Proofs.WrittenText
import Bootstrap.Proofs.WritingTools

/-!
What a result file says. White space around a result does not count, and a false literal that has
none at its own ends is always recognised; it alone makes an attempt fail whose steps all succeed.
-/

namespace Bootstrap

/-- What a text without white space around it means: the literals first, the false one before the
true one, then 64-bit numerals. -/
inductive Verdict.Meant (falseLiteral trueLiteral core : String) : Verdict → Prop
  | no (literal : core = falseLiteral) : Meant falseLiteral trueLiteral core .no
  | yes (other : core ≠ falseLiteral) (literal : core = trueLiteral) :
      Meant falseLiteral trueLiteral core .yes
  | integer {value : Int} (other : core ≠ falseLiteral) (neither : core ≠ trueLiteral)
      (numeral : Numeral.Denotes core.toList value) (lower : -2 ^ 63 ≤ value)
      (upper : value ≤ 2 ^ 63 - 1) : Meant falseLiteral trueLiteral core (.integer value)
  | printed (other : core ≠ falseLiteral) (neither : core ≠ trueLiteral)
      (noNumeral : ∀ value, Numeral.Denotes core.toList value →
        ¬(-2 ^ 63 ≤ value ∧ value ≤ 2 ^ 63 - 1)) :
      Meant falseLiteral trueLiteral core (.printed core)

theorem Verdict.ofPrinted_meant (falseLiteral trueLiteral core : String) :
    Meant falseLiteral trueLiteral core (ofPrinted falseLiteral trueLiteral core) := by
  unfold ofPrinted
  split
  next literal => exact .no literal
  next other =>
    split
    next literal => exact .yes other literal
    next neither =>
      split
      next value read =>
        obtain ⟨numeral, lower, upper⟩ := (Numeral.int64?_eq_some_iff ..).mp read
        exact .integer other neither numeral lower upper
      next unread =>
        refine .printed other neither ?_
        intro value numeral bounds
        have read := (Numeral.int64?_eq_some_iff core value).mpr ⟨numeral, bounds⟩
        rw [unread] at read
        cases read

theorem Verdict.ofPrinted_eq_iff (falseLiteral trueLiteral core : String) (verdict : Verdict) :
    ofPrinted falseLiteral trueLiteral core = verdict ↔
      Meant falseLiteral trueLiteral core verdict := by
  constructor
  · rintro rfl
    exact ofPrinted_meant falseLiteral trueLiteral core
  · intro meant
    unfold ofPrinted
    cases meant with
    | no literal => exact if_pos literal
    | yes other literal => rw [if_neg other, if_pos literal]
    | integer other neither numeral lower upper =>
        rw [if_neg other, if_neg neither,
          (Numeral.int64?_eq_some_iff ..).mpr ⟨numeral, lower, upper⟩]
    | printed other neither noNumeral =>
        rw [if_neg other, if_neg neither]
        cases read : Numeral.int64? core with
        | none => rfl
        | some value =>
            obtain ⟨numeral, bounds⟩ := (Numeral.int64?_eq_some_iff ..).mp read
            exact absurd bounds (noNumeral value numeral)

namespace External

def Prints (core : String) (content : Option Bytes) : Prop :=
  ∃ text, content = some (Utf8.encode text) ∧ Text.Wraps core.toList text.toList

theorem marshal_text (runner : Runner) (text : String) :
    marshal runner (some (Utf8.encode text)) =
      .ok (Verdict.ofPrinted runner.falseLiteral runner.trueLiteral (Text.trim text)) := by
  rw [marshal, (Utf8.decode_eq_ok_iff ..).mpr rfl]

theorem marshal_eq_error (runner : Runner) {content : Option Bytes}
    (unreadable : ¬∃ text, content = some (Utf8.encode text)) :
    ∃ diagnostic, marshal runner content = .error (.marshal diagnostic) := by
  cases content with
  | none => exact ⟨_, rfl⟩
  | some bytes =>
      cases read : Utf8.decode bytes with
      | error fault => exact ⟨_, by rw [marshal, read]⟩
      | ok text =>
          exact absurd ⟨text, congrArg some ((Utf8.decode_eq_ok_iff ..).mp read)⟩ unreadable

theorem marshal_eq_ok_iff (runner : Runner) (content : Option Bytes) (verdict : Verdict) :
    marshal runner content = .ok verdict ↔ ∃ core, Text.Bare core.toList ∧ Prints core content ∧
      Verdict.Meant runner.falseLiteral runner.trueLiteral core verdict := by
  constructor
  · intro marshalled
    by_cases readable : ∃ text, content = some (Utf8.encode text)
    · obtain ⟨text, rfl⟩ := readable
      rw [marshal_text] at marshalled
      obtain ⟨wraps, bare⟩ := (Text.trim_eq_iff text _).mp rfl
      exact ⟨Text.trim text, bare, ⟨text, rfl, wraps⟩,
        (Verdict.ofPrinted_eq_iff ..).mp (Except.ok.inj marshalled)⟩
    · obtain ⟨diagnostic, refused⟩ := marshal_eq_error runner readable
      rw [refused] at marshalled
      cases marshalled
  · rintro ⟨core, bare, ⟨text, rfl, wraps⟩, meant⟩
    rw [marshal_text, (Text.trim_eq_iff text core).mpr ⟨wraps, bare⟩,
      (Verdict.ofPrinted_eq_iff ..).mpr meant]

theorem marshal_eq_no_iff (runner : Runner) (content : Option Bytes) :
    marshal runner content = .ok .no ↔
      Text.Bare runner.falseLiteral.toList ∧ Prints runner.falseLiteral content := by
  rw [marshal_eq_ok_iff]
  constructor
  · rintro ⟨core, bare, prints, meant⟩
    cases meant with
    | no literal => exact literal ▸ ⟨bare, prints⟩
  · rintro ⟨bare, prints⟩
    exact ⟨runner.falseLiteral, bare, prints, .no rfl⟩

def Fetches (path : Path) (action : Act World (Except Fault (Option Bytes) × Engine)) : Prop :=
  ∀ journal world content left, (action journal world).answer = (.ok content, left) →
    content = ((action journal world).world.disk.read path).toOption

theorem Fetches.fault (path : Path) (fault : Fault) (engine : Engine) :
    Fetches path (Pure.pure (.error fault, engine)) := by
  intro journal world content left answered
  cases answered

theorem Fetches.bind {α : Type} {path : Path} (first : Act World α)
    {next : α → Act World (Except Fault (Option Bytes) × Engine)}
    (fetches : ∀ answer, Fetches path (next answer)) : Fetches path (first >>= next) :=
  fun journal world => fetches _ journal (first journal world).world

theorem collectResult_fetches (runner : Runner) (exportName : String) (engine : Engine)
    (launch : Launch) :
    Fetches engine.resultPath (collectResult runner exportName engine launch) := by
  cases launch with
  | refused error => exact Fetches.fault _ _ _
  | finished finish =>
      unfold collectResult
      dsimp only
      split
      · intro journal world content left answered
        exact (Except.ok.inj (congrArg Prod.fst answered)).symm
      · exact Fetches.fault _ _ _

theorem invoke_fetches (tools : Tools) (runner : Runner) (exportName : String) (engine : Engine) :
    Fetches engine.resultPath (invoke tools runner exportName engine) := by
  unfold invoke
  split
  · refine Fetches.bind _ fun prepared => ?_
    cases prepared with
    | error fault => exact Fetches.fault _ _ _
    | ok input =>
        refine Fetches.bind _ fun _ => Fetches.bind _ fun launch => ?_
        exact collectResult_fetches runner exportName engine launch
  · exact Fetches.fault _ _ _

theorem isPassed_of_judged {tools : Tools} {runner : Runner} {toolchain : Toolchain}
    {left : Engine} {content : Option Bytes} {outcome : Outcome}
    (judged : Trial.Judged (engines tools runner) toolchain left (.ok content) outcome) :
    outcome.isPassed = false ↔ (¬∃ text, content = some (Utf8.encode text)) ∨
      (Text.Bare runner.falseLiteral.toList ∧ Prints runner.falseLiteral content) := by
  rw [← marshal_eq_no_iff]
  cases judged with
  | notMarshalled refused reported =>
      refine ⟨fun _ => .inl ?_, fun _ => rfl⟩
      rintro ⟨text, rfl⟩
      exact absurd (refused.symm.trans (marshal_text runner text)) (by simp)
  | returnedFalse marshalled => exact ⟨fun _ => .inr marshalled, fun _ => rfl⟩
  | passed marshalled truthy =>
      refine ⟨fun failed => Bool.noConfusion failed, ?_⟩
      rintro (unreadable | returned)
      · obtain ⟨diagnostic, refused⟩ := marshal_eq_error runner unreadable
        exact absurd (marshalled.symm.trans refused) (by simp)
      · exact absurd (Except.ok.inj (marshalled.symm.trans returned)) truthy

structure Recognises (tools : Tools) (runner : Runner) : Prop where
  refuses : ∀ content, (∃ diagnostic, marshal runner content = .error (.marshal diagnostic)) ↔
    ¬∃ text, content = some (Utf8.encode text)
  falsehood : ∀ content, marshal runner content = .ok .no ↔
    Text.Bare runner.falseLiteral.toList ∧ Prints runner.falseLiteral content
  meaning : ∀ text, ∃ core verdict, Text.Bare core.toList ∧ Text.Wraps core.toList text.toList ∧
    Verdict.Meant runner.falseLiteral runner.trueLiteral core verdict ∧
      marshal runner (some (Utf8.encode text)) = .ok verdict
  fetches : ∀ exportName engine, Fetches engine.resultPath (invoke tools runner exportName engine)
  decides : ∀ module toolchain test journal world engine content left,
    .invoke engine toolchain.entryExport (.ok content, left) ∈
      (Trial.against (engines tools runner).watched module toolchain test journal.beside
        (world, [])).world.2 →
    engine.number = 0 →
      ((Trial.against (engines tools runner) module toolchain test journal world).answer.isPassed =
        false ↔ (¬∃ text, content = some (Utf8.encode text)) ∨
          (Text.Bare runner.falseLiteral.toList ∧ Prints runner.falseLiteral content))

/-- A false literal without white space at its ends is recognised wherever it is printed, and an
attempt whose test gives a result fails by that literal or by a result that is no text. -/
theorem results_recognised (tools : Tools) (runner : Runner) : Recognises tools runner where
  refuses := by
    intro content
    constructor
    · rintro ⟨diagnostic, refused⟩ ⟨text, rfl⟩
      rw [marshal_text] at refused
      cases refused
    · exact marshal_eq_error runner
  falsehood := marshal_eq_no_iff runner
  meaning := by
    intro text
    obtain ⟨wraps, bare⟩ := (Text.trim_eq_iff text _).mp rfl
    exact ⟨Text.trim text, _, bare, wraps, Verdict.ofPrinted_meant _ _ _, marshal_text runner text⟩
  fetches := invoke_fetches tools runner
  decides := by
    intro module toolchain test journal world engine content left invoked own
    obtain ⟨_, _, visits, seen, _, course⟩ :=
      Trial.against_shadows (engines tools runner) module toolchain test journal world
    rw [seen, List.nil_append] at invoked
    exact isPassed_of_judged (course.judged invoked own)

deriving instance DecidableEq for Visit

def printingFalse : TestCase :=
  ⟨"echo", ⟨"echo", ⟨"tests/echo.src"⟩, [97]⟩, some (Utf8.encode " false\n")⟩

def echoVisits : List (Visit Engine (Option Bytes)) :=
  (Trial.against (engines (writing inputContent) resultRunner).watched [1] Toolchain.default
    printingFalse (Journal.beside fun _ world => world) (World.start .empty, [])).world.2

def echoEngine : Engine :=
  { Engine.numbered resultRunner 0 with input := Utf8.encode " false\n", loaded := true }

theorem printed_false_fails :
    .invoke ⟨0, [Utf8.encode " false\n"], echoEngine⟩ "main" (.ok (some (Utf8.encode " false\n")),
        { echoEngine with output := Utf8.encode " false\n" }) ∈ echoVisits ∧
      (Trial.against (engines (writing inputContent) resultRunner) [1] Toolchain.default
        printingFalse (fun _ world => world) (World.start .empty)).answer.isPassed = false := by
  have invoked : .invoke ⟨0, [Utf8.encode " false\n"], echoEngine⟩ "main"
      (.ok (some (Utf8.encode " false\n")),
        { echoEngine with output := Utf8.encode " false\n" }) ∈ echoVisits := by
    decide +kernel
  have printed : Prints "false" (some (Utf8.encode " false\n")) :=
    ⟨_, rfl, [' '], ['\n'], by simp [Text.AllBlank, Text.isBlank],
      by simp [Text.AllBlank, Text.isBlank], rfl⟩
  have decides := (results_recognised (writing inputContent) resultRunner).decides [1]
    Toolchain.default printingFalse (fun _ world => world) (World.start .empty) _ _ _ invoked rfl
  have bare : Text.Bare resultRunner.falseLiteral.toList := by
    constructor <;> simp [resultRunner, Text.isBlank]
  exact ⟨invoked, decides.mpr (.inr ⟨bare, printed⟩)⟩

def blankFalse : Runner :=
  { resultRunner with falseLiteral := " #f" }

/-- Where the false literal has white space at an end, a result that is this literal is none. -/
theorem blank_literal_unrecognised :
    ¬∀ content, marshal blankFalse content = .ok .no ↔ Prints blankFalse.falseLiteral content := by
  intro recognised
  -- the result is trimmed before the comparison, and the literal is not
  have printed : Prints blankFalse.falseLiteral (some (Utf8.encode " #f")) :=
    ⟨" #f", rfl, [], [], by simp [Text.AllBlank], by simp [Text.AllBlank], rfl⟩
  have read : marshal blankFalse (some (Utf8.encode " #f")) = .ok (.printed "#f") := by
    decide +kernel
  exact absurd (read.symm.trans ((recognised _).mpr printed)) (by decide)

end External

end Bootstrap
