import Bootstrap.Proofs.PrintedValues
import Bootstrap.Toy.World

/-!
The same text printed for toy engines and written by a runner. The blanks around a result count for
toy engines alone, so the two verdicts are the same exactly for texts without any.
-/

namespace Bootstrap

namespace Text

theorem trim_eq_self_iff (text : String) : trim text = text ↔ Bare text.toList := by
  rw [trim_eq_iff]
  constructor
  · rintro ⟨wraps, bare⟩
    exact bare
  · intro bare
    exact ⟨⟨[], [], by simp [AllBlank], by simp [AllBlank], by simp⟩, bare⟩

theorem bare_iff (text : List Char) : Bare text ↔
    (text.head?.all fun character => !isBlank character) = true ∧
      (text.getLast?.all fun character => !isBlank character) = true := by
  simp only [Option.all_eq_true, Bool.not_eq_true']
  constructor
  · intro bare
    exact ⟨bare.front, bare.back⟩
  · rintro ⟨front, back⟩
    exact ⟨front, back⟩

instance (text : List Char) : Decidable (Bare text) :=
  decidable_of_iff _ (bare_iff text).symm

theorem bare_of_no_blank {characters : List Char}
    (visible : ∀ character ∈ characters, isBlank character = false) : Bare characters := by
  constructor
  · intro character first
    exact visible character (List.mem_of_mem_head? first)
  · intro character last
    exact visible character (List.mem_of_mem_getLast? last)

theorem splitFirst?_eq_some {separator : Char} {text before after : List Char}
    (split : splitFirst? separator text = some (before, after)) :
    text = before ++ separator :: after := by
  induction text generalizing before after with
  | nil => cases split
  | cons character rest ih =>
      rw [splitFirst?] at split
      by_cases found : character = separator
      · rw [if_pos found] at split
        cases split
        rw [found]
        rfl
      · rw [if_neg found] at split
        obtain ⟨⟨inner, tail⟩, later, same⟩ := Option.map_eq_some_iff.mp split
        cases same
        rw [ih later]
        rfl

end Text

namespace Numeral

theorem IsDigit.not_blank {character : Char} (digit : IsDigit character) :
    Text.isBlank character = false := by
  have lower : 48 ≤ character.toNat := digit.1
  have upper : character.toNat ≤ 57 := digit.2
  simp only [Text.isBlank, Bool.or_eq_false_iff, Bool.and_eq_false_iff, decide_eq_false_iff_not]
  omega

theorem bare_of_denotes {text : List Char} {value : Int} (denotes : Denotes text value) :
    Text.Bare text := by
  apply Text.bare_of_no_blank
  intro character member
  cases denotes with
  | bare natural => exact (natural.digits character member).not_blank
  | plus natural =>
      rcases List.mem_cons.mp member with rfl | later
      · decide
      · exact (natural.digits character later).not_blank
  | minus natural =>
      rcases List.mem_cons.mp member with rfl | later
      · decide
      · exact (natural.digits character later).not_blank

end Numeral

namespace Verdict

theorem eq_of_ofPrinted {falseLiteral trueLiteral text core : String}
    (printed : ofPrinted falseLiteral trueLiteral text = .printed core) : core = text := by
  have meant := (ofPrinted_eq_iff falseLiteral trueLiteral text _).mp printed
  cases meant with
  | printed other neither noNumeral => rfl

/-- Nothing with white space at an end is a literal or a numeral. -/
theorem ofPrinted_of_not_bare {falseLiteral trueLiteral text : String}
    (falseBare : Text.Bare falseLiteral.toList) (trueBare : Text.Bare trueLiteral.toList)
    (blank : ¬Text.Bare text.toList) :
    ofPrinted falseLiteral trueLiteral text = .printed text := by
  apply (ofPrinted_eq_iff ..).mpr
  apply Meant.printed
  · rintro rfl
    exact blank falseBare
  · rintro rfl
    exact blank trueBare
  · intro value numeral
    exact absurd (Numeral.bare_of_denotes numeral) blank

theorem ofPrinted_trim_eq_iff {falseLiteral trueLiteral : String}
    (falseBare : Text.Bare falseLiteral.toList) (trueBare : Text.Bare trueLiteral.toList)
    (text : String) :
    ofPrinted falseLiteral trueLiteral (Text.trim text) = ofPrinted falseLiteral trueLiteral text ↔
      Text.Bare text.toList := by
  constructor
  · intro same
    by_contra blank
    rw [ofPrinted_of_not_bare falseBare trueBare blank] at same
    exact blank ((Text.trim_eq_self_iff text).mp (eq_of_ofPrinted same).symm)
  · intro bare
    rw [(Text.trim_eq_self_iff text).mpr bare]

end Verdict

namespace Toy

theorem Module.literal_of_ofDirective {directive literal : String}
    (read : ofDirective directive = .ok (.answer literal)) :
    literal = "" ∨ ∃ operation, directive.toList = operation ++ literal.toList := by
  have argument : (splitDirective directive).2 = literal := by
    unfold ofDirective at read
    dsimp only at read
    split at read
    · exact Module.answer.inj (Except.ok.inj read)
    · split at read
      · cases read
      · split at read
        · cases read
        · split at read <;> cases read
  unfold splitDirective at argument
  split at argument
  next operation rest split =>
    right
    refine ⟨operation ++ [' '], ?_⟩
    rw [← argument, String.toList_ofList, List.append_assoc]
    exact Text.splitFirst?_eq_some split
  next => exact .inl argument.symm

theorem Module.literal_back {bytes : Bytes} {literal : String}
    (parsed : parse bytes = .ok (.answer literal)) :
    ∀ character ∈ literal.toList.getLast?, Text.isBlank character = false := by
  unfold parse at parsed
  split at parsed
  next text decoded =>
    unfold ofHeader at parsed
    split at parsed
    next => cases parsed
    next =>
      split at parsed
      next directive found =>
        intro character last
        rcases literal_of_ofDirective parsed with rfl | ⟨operation, whole⟩
        · cases last
        · have bare := ((Text.trim_eq_iff directive _).mp rfl).2
          apply bare.back character
          rw [whole, List.getLast?_append, last]
          rfl
      next => cases parsed
  next => cases parsed

theorem bare_literals : Text.Bare "#f".toList ∧ Text.Bare "#t".toList := by
  decide

theorem Engine.printed_back {bytes : Bytes} {module : Module} {engine after : Engine}
    {exportName text : String} (parsed : Module.parse bytes = .ok module)
    (loaded : engine.module = some module)
    (returned : engine.invoke exportName = (.ok (.printed text), after)) :
    ∀ character ∈ text.toList.getLast?, Text.isBlank character = false := by
  simp only [invoke, loaded] at returned
  cases module with
  | compiler tag =>
      simp only [perform, compile] at returned
      have literal : text = "#t" := by
        split at returned
        · split at returned
          · cases returned
          · split at returned
            · cases returned
            · cases returned
              rfl
        · cases returned
      rw [literal]
      exact bare_literals.2.back
  | answer literal =>
      cases returned
      exact Module.literal_back parsed
  | expectInput expected =>
      have literal : text = verdictLiteral (engine.output ++ engine.input = expected) := by
        cases returned
        rfl
      rw [literal]
      unfold verdictLiteral
      split
      · exact bare_literals.2.back
      · exact bare_literals.1.back
  | trap message => cases returned
  | unmarshalable => cases returned

end Toy

namespace External

def Runner.plain (runner : Runner) : Runner :=
  { runner with
    falseLiteral := Toolchain.default.falseLiteral
    trueLiteral := Toolchain.default.trueLiteral }

theorem marshal_plain (runner : Runner) (text : String) :
    marshal runner.plain (some (Utf8.encode text)) =
      Toy.Engine.marshal (.printed (Text.trim text)) :=
  marshal_text runner.plain text

theorem marshal_plain_eq_iff (runner : Runner) (text : String) :
    marshal runner.plain (some (Utf8.encode text)) = Toy.Engine.marshal (.printed text) ↔
      Text.Bare text.toList := by
  rw [marshal_plain, Toy.Engine.marshal, Toy.Engine.marshal, Except.ok.injEq]
  exact Verdict.ofPrinted_trim_eq_iff Toy.bare_literals.1 Toy.bare_literals.2 text

theorem marshal_plain_eq_no_iff (runner : Runner) (text : String) :
    marshal runner.plain (some (Utf8.encode text)) = .ok .no ↔ Text.trim text = "#f" := by
  rw [marshal_plain, Toy.Engine.marshal, Except.ok.injEq, Verdict.ofPrinted_eq_iff]
  constructor
  · intro meant
    cases meant with
    | no literal => exact literal
  · intro literal
    exact .no literal

/-- A runner's result is taken without the white space around it, a toy engine's as it is. They mean
the same exactly if there is none, and so what a toy module returns means the same to both exactly
if it does not begin with any. -/
theorem engines_agree (runner : Runner) (text : String) :
    let written := marshal runner.plain (some (Utf8.encode text))
    let printed := Toy.Engine.marshal (.printed text)
    written = Toy.Engine.marshal (.printed (Text.trim text)) ∧
    (written = printed ↔ Text.Bare text.toList) ∧
    (written = .ok .no ↔ Text.trim text = "#f") ∧ (printed = .ok .no ↔ text = "#f") ∧
    ∀ bytes module (engine after : Toy.Engine) exportName,
      Toy.Module.parse bytes = .ok module → engine.module = some module →
      engine.invoke exportName = (.ok (.printed text), after) →
        (written = printed ↔ ∀ character ∈ text.toList.head?, Text.isBlank character = false) := by
  intro written printed
  have same : written = printed ↔ Text.Bare text.toList := marshal_plain_eq_iff runner text
  refine ⟨marshal_plain runner text, same, marshal_plain_eq_no_iff runner text, ?_, ?_⟩
  · constructor
    · intro no
      cases (Verdict.ofPrinted_eq_iff ..).mp (Except.ok.inj no) with
      | no literal => exact literal
    · rintro rfl
      rfl
  · intro bytes module engine after exportName parsed loaded returned
    rw [same]
    constructor
    · intro bare
      exact bare.front
    · intro front
      exact ⟨front, Toy.Engine.printed_back parsed loaded returned⟩

def answering : Toy.Engine :=
  { Toy.Engine.fresh with module := some (.answer "-0042") }

theorem engines_agree_on_numeral :
    Toy.Module.parse (Utf8.encode "test return -0042\n") = .ok (.answer "-0042") ∧
      marshal resultRunner.plain (some (Utf8.encode "-0042")) =
        Toy.Engine.marshal (.printed "-0042") := by
  have parsed : Toy.Module.parse (Utf8.encode "test return -0042\n") = .ok (.answer "-0042") := by
    decide +kernel
  have bare : Text.Bare "-0042".toList := by decide
  obtain ⟨-, -, -, -, returned⟩ := engines_agree resultRunner "-0042"
  exact ⟨parsed, (returned _ _ answering answering "main" parsed rfl rfl).mpr bare.front⟩

theorem line_feed_tells_engines_apart :
    marshal resultRunner.plain (some (Utf8.encode "#f\n")) = .ok .no ∧
      Toy.Engine.marshal (.printed "#f\n") = .ok (.printed "#f\n") := by
  constructor
  · exact (marshal_plain_eq_no_iff resultRunner "#f\n").mpr (by decide +kernel)
  · decide +kernel

end External

end Bootstrap
