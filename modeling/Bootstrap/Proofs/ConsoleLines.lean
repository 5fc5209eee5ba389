import Bootstrap.Proofs.ConsoleSummary
import Bootstrap.Proofs.LogLines
import Bootstrap.Proofs.StageFailures
import Bootstrap.Proofs.WholeRun

/-!
What text mode prints while a run goes on, by lines. Every entry but a skipped fixpoint check prints
a text of its own, in order; that text is a line exactly if everything it quotes is, and there are
as many lines as entries exactly if nothing that is quoted holds a line feed.
-/

namespace Bootstrap

namespace Text

theorem isPlain_intercalate {separator : List Char} (plain : IsPlain separator)
    {parts : List (List Char)} (each : ∀ part ∈ parts, IsPlain part) :
    IsPlain (separator.intercalate parts) := by
  induction parts with
  | nil =>
      intro character member
      cases member
  | cons part rest ih =>
      obtain ⟨first, others⟩ := List.forall_mem_cons.mp each
      cases rest with
      | nil =>
          rw [List.intercalate_singleton]
          exact first
      | cons next rest =>
          rw [List.intercalate_cons_cons]
          exact (first.append plain).append (ih others)

theorem IsPlain.isLine {text : String} (plain : IsPlain text.toList) : IsLine text := by
  intro character listed member
  exact not_isPlainChar_of_mem_lineBreaks character listed (plain character member)

theorem isPlain_toString (value : Nat) : IsPlain (toString value).toList := by
  have digits : (toString value).toList = Nat.toDigits 10 value := by simp
  rw [digits]
  exact isPlain_toDigits (by omega) (by omega) value

theorem isPlain_hex (width value : Nat) : IsPlain (Numeral.hex width value).toList := by
  rw [Numeral.hex, String.toList_ofList, Numeral.padStart]
  apply IsPlain.append
  · intro character member
    rw [(List.mem_replicate.mp member).2]
    decide
  · exact isPlain_toDigits (by omega) (by omega) value

/-- A text that shows some other texts and nothing but plain characters around them. -/
def Shows (text : List Char) (quotes : List String) : Prop :=
  ∀ character, ¬IsPlainChar character →
    text.count character = (quotes.map fun quote => quote.toList.count character).sum

theorem Shows.of_plain {text : List Char} (plain : IsPlain text) : Shows text [] := by
  intro character special
  exact List.count_eq_zero.mpr fun member => special (plain character member)

theorem Shows.quote (text : String) : Shows text.toList [text] := by
  intro character special
  simp

theorem Shows.append {front back : List Char} {quotes others : List String}
    (first : Shows front quotes) (second : Shows back others) :
    Shows (front ++ back) (quotes ++ others) := by
  intro character special
  rw [List.count_append, first character special, second character special, List.map_append,
    List.sum_append]

theorem Shows.notMem_iff {text : List Char} {quotes : List String} (shows : Shows text quotes)
    {character : Char} (special : ¬IsPlainChar character) :
    character ∉ text ↔ ∀ quote ∈ quotes, character ∉ quote.toList := by
  rw [← List.count_eq_zero, shows character special, List.sum_eq_zero_iff]
  simp only [List.mem_map, forall_exists_index, and_imp, forall_apply_eq_imp_iff₂,
    List.count_eq_zero]

theorem Shows.isLine_iff {text : String} {quotes : List String} (shows : Shows text.toList quotes) :
    IsLine text ↔ ∀ quote ∈ quotes, IsLine quote := by
  constructor
  · intro isLine quote member character listed
    have special := not_isPlainChar_of_mem_lineBreaks character listed
    exact (shows.notMem_iff special).mp (isLine character listed) quote member
  · intro all character listed
    have special := not_isPlainChar_of_mem_lineBreaks character listed
    exact (shows.notMem_iff special).mpr fun quote member => all quote member character listed

end Text

theorem Stage.isPlain_name (stage : Stage) : Text.IsPlain stage.name.toList := by
  cases stage <;> decide

theorem FailureKind.isPlain_text (kind : FailureKind) : Text.IsPlain kind.text.toList := by
  cases kind <;> decide

namespace Entry

def isShown (entry : Entry) : Bool :=
  entry ≠ .fixpoint .skipped

def text (entry : Entry) : String :=
  entry.line?.getD ""

def lines (entry : Entry) : List (List Char) :=
  Text.splitChars '\n' entry.text.toList

/-- What an entry says in the words of tests, processes and callers. -/
def quotes : Entry → List String
  | .attempt record => record.test :: (record.outcome.failure?.map AttemptFailure.diagnostic).toList
  | .buildFailed _ diagnostic => [diagnostic]
  | .fixpoint _ => []
  | .info message => [message]

theorem line?_eq (entry : Entry) :
    entry.line? = if entry.isShown then some entry.text else none := by
  cases entry with
  | fixpoint proof => cases proof <;> rfl
  | _ => rfl

theorem filterMap_line? (entries : List Entry) :
    entries.filterMap line? = (entries.filter isShown).map text := by
  induction entries with
  | nil => rfl
  | cons entry rest ih =>
      rw [List.filterMap_cons, List.filter_cons, line?_eq]
      by_cases shown : entry.isShown = true
      · simp only [shown, if_true, List.map_cons, ih]
      · simp only [shown, Bool.false_eq_true, if_false, ih]

theorem shows_attempt (record : Attempt) :
    Text.Shows record.line.toList (attempt record).quotes := by
  have named : Text.Shows (record.test.toList ++ ": ".toList ++ record.stage.name.toList)
      [record.test] := by
    have colon : Text.IsPlain ": ".toList := by decide
    exact ((Text.Shows.quote _).append (.of_plain colon)).append
      (.of_plain record.stage.isPlain_name)
  rcases record with ⟨test, stage, outcome⟩
  cases outcome with
  | passed value =>
      have success : Text.IsPlain " succeeded".toList := by decide
      have shape : (Attempt.line ⟨test, stage, .passed value⟩).toList =
          test.toList ++ ": ".toList ++ stage.name.toList ++ " succeeded".toList := by
        simp [Attempt.line]
      rw [shape]
      exact named.append (.of_plain success)
  | failed failure =>
      have opening : Text.IsPlain " failed (".toList := by decide
      have closing : Text.IsPlain "): ".toList := by decide
      have shape : (Attempt.line ⟨test, stage, .failed failure⟩).toList =
          test.toList ++ ": ".toList ++ stage.name.toList ++
            (" failed (".toList ++ failure.kind.text.toList ++ "): ".toList) ++
              failure.diagnostic.toList := by
        simp [Attempt.line]
      rw [shape]
      exact (named.append (.of_plain ((opening.append failure.kind.isPlain_text).append closing)))
        |>.append (.quote failure.diagnostic)

theorem isPlain_converged (stage next : Stage) (size : Nat) (digest : UInt64) :
    Text.IsPlain (fixpoint (.converged stage next size digest)).text.toList := by
  have opening : Text.IsPlain "fixpoint: ".toList := by decide
  have equals : Text.IsPlain " == ".toList := by decide
  have bracket : Text.IsPlain " (".toList := by decide
  have bytes : Text.IsPlain " bytes, ".toList := by decide
  have closing : Text.IsPlain ")".toList := by decide
  have shape : (fixpoint (.converged stage next size digest)).text.toList =
      "fixpoint: ".toList ++ stage.name.toList ++ " == ".toList ++ next.name.toList ++
        " (".toList ++ (toString size).toList ++ " bytes, ".toList ++
          (Artifact.digestText digest).toList ++ ")".toList := by
    simp [text, line?]
  rw [shape]
  have stages := ((opening.append stage.isPlain_name).append equals).append next.isPlain_name
  have sized := ((stages.append bracket).append (Text.isPlain_toString size)).append bytes
  exact (sized.append (Text.isPlain_hex 16 digest.toNat)).append closing

theorem shows_quotes (entry : Entry) : Text.Shows entry.text.toList entry.quotes := by
  cases entry with
  | attempt record => exact shows_attempt record
  | buildFailed stage diagnostic =>
      have failed : Text.IsPlain " build failed: ".toList := by decide
      have shape : (buildFailed stage diagnostic).text.toList =
          stage.name.toList ++ " build failed: ".toList ++ diagnostic.toList := by
        simp [text, line?]
      rw [shape]
      exact (Text.Shows.of_plain (stage.isPlain_name.append failed)).append (.quote diagnostic)
  | fixpoint proof =>
      cases proof with
      | skipped => exact .of_plain (by decide)
      | converged stage next size digest =>
          exact .of_plain (isPlain_converged stage next size digest)
  | info message => exact .quote message

theorem isLine_text_iff (entry : Entry) :
    Text.IsLine entry.text ↔ ∀ quote ∈ entry.quotes, Text.IsLine quote :=
  entry.shows_quotes.isLine_iff

theorem length_lines (entry : Entry) : entry.lines.length =
    1 + (entry.quotes.map fun quote => quote.toList.count '\n').sum := by
  rw [lines, Text.length_splitChars, entry.shows_quotes '\n' (by decide), Nat.add_comm]

theorem notMem_text_iff (entry : Entry) :
    '\n' ∉ entry.text.toList ↔ ∀ quote ∈ entry.quotes, '\n' ∉ quote.toList :=
  entry.shows_quotes.notMem_iff (by decide)

end Entry

theorem Verification.isPlain_heading (settings : Settings) (count : Nat) :
    Text.IsPlain (heading settings count).toList := by
  have against : Text.IsPlain " tests against ".toList := by decide
  have comma : Text.IsPlain ", ".toList := by decide
  have shape : (heading settings count).toList =
      (toString count).toList ++ " tests against ".toList ++
        ", ".toList.intercalate (settings.selection.tested.map fun stage => stage.name.toList) := by
    simp [heading, String.toList_intercalate, Function.comp_def]
  rw [shape]
  apply ((Text.isPlain_toString count).append against).append
  apply Text.isPlain_intercalate comma
  intro name member
  obtain ⟨stage, -, rfl⟩ := List.mem_map.mp member
  exact stage.isPlain_name

section

variable {World Engine Value : Type}

theorem Verification.isLine_of_info (env : Environment World Engine Value) (settings : Settings)
    (filter : Option String) (world : World) (logger : Log.Logger) {message : String}
    (told : .info message ∈ (run env settings filter (.start world logger)).2.entries) :
    Text.IsLine message := by
  obtain ⟨_, rfl, begun⟩ := search_takes env settings (.start world logger)
    (AnyWorld.shows (.start world logger))
  rw [run_apply] at told
  generalize search env settings (.start world logger) = result at begun told
  obtain ⟨found, searched⟩ := result
  have started : searched.entries = [] := begun.2.1
  cases found with
  | error missing =>
      dsimp only at told
      rw [started] at told
      cases told
  | crash =>
      dsimp only at told
      rw [started] at told
      cases told
  | ok cases =>
      obtain ⟨trials, tried, checked, proven, session, tries, checks, tells, kept, entries⟩ :=
        trying_tells env settings filter (cases.filter (isSelected filter)) searched
      dsimp only at told
      rw [tells] at told
      dsimp only [Prod.map_apply, id_eq] at told
      rw [entries, started, List.nil_append] at told
      rcases List.mem_cons.mp told with same | later
      · rw [Entry.info.inj same]
        exact (isPlain_heading settings _).isLine
      · simp [Basis.buildFailedEntry] at later

theorem External.isLine_of_info (tools : Tools) (family : Nat) (settings : Settings)
    (filter : Option String) (world : External.World) (logger : Log.Logger) {message : String}
    (told : .info message ∈ (run tools family settings filter (.start world logger)).2.entries) :
    Text.IsLine message := by
  revert told
  unfold run
  cases Command.ofWords? settings.toolchain.runner with
  | none =>
      intro told
      cases told
  | some command =>
      dsimp only
      cases hostOf? tools settings with
      | none =>
          intro told
          cases told
      | some compiler => exact Verification.isLine_of_info _ settings filter world logger

end

namespace CommandLine

def progress (entries : List Entry) : String :=
  joinLines (entries.filterMap Entry.line?)

theorem progress_eq_join (entries : List Entry) : progress entries =
    String.join (((entries.filter Entry.isShown).map Entry.text).map fun text => text ++ "\n") := by
  rw [progress, Entry.filterMap_line?]
  rfl

theorem endedLines_progress (entries : List Entry) :
    Text.endedLines (progress entries).toList =
      (entries.filter Entry.isShown).flatMap Entry.lines := by
  rw [progress_eq_join, Text.endedLines_join, List.flatMap_map]
  rfl

theorem quotes_of_not_shown {entry : Entry} (hidden : ¬entry.isShown = true) :
    entry.quotes = [] := by
  have skipped : entry = .fixpoint .skipped := by simpa [Entry.isShown] using hidden
  rw [skipped]
  rfl

theorem length_endedLines_progress_iff (entries : List Entry) :
    (Text.endedLines (progress entries).toList).length =
        (entries.filter Entry.isShown).length ↔
      ∀ entry ∈ entries, ∀ quote ∈ entry.quotes, '\n' ∉ quote.toList := by
  have counted := Text.length_endedLines_join_iff ((entries.filter Entry.isShown).map Entry.text)
  rw [List.length_map, ← progress_eq_join] at counted
  rw [counted, List.forall_mem_map]
  constructor
  · intro unbroken entry member
    by_cases shown : entry.isShown = true
    · exact entry.notMem_text_iff.mp (unbroken entry (List.mem_filter.mpr ⟨member, shown⟩))
    · rw [quotes_of_not_shown shown]
      simp
  · intro unbroken entry shown
    exact entry.notMem_text_iff.mpr (unbroken entry (List.mem_of_mem_filter shown))

theorem endedLines_progress_of_notMem (entries : List Entry)
    (unbroken : ∀ entry ∈ entries, ∀ quote ∈ entry.quotes, '\n' ∉ quote.toList) :
    Text.endedLines (progress entries).toList =
      (entries.filter Entry.isShown).map fun entry => entry.text.toList := by
  rw [progress_eq_join, Text.endedLines_join_of_notMem, List.map_map]
  · rfl
  · intro text member
    obtain ⟨entry, shown, rfl⟩ := List.mem_map.mp member
    exact entry.notMem_text_iff.mpr (unbroken entry (List.mem_of_mem_filter shown))

/-- The summary behind the progress; a crash leaves none. -/
def closingText (entries : List Entry) (result : Result RunError Summary) : String :=
  match result.returned? with
  | some returned => joinLines ((Tally.ofEntries entries).lines ++ resultLines returned)
  | none => ""

theorem joinLines_append (first second : List String) :
    joinLines (first ++ second) = joinLines first ++ joinLines second := by
  simp [joinLines, String.join_append]

theorem stdout_finish (result : Result RunError Summary) (session : Session External.World) :
    (finish false result session).stdout =
      progress session.entries ++ closingText session.entries result := by
  have appended (returned : Except RunError Summary) :
      joinLines (textLines session.entries returned) = progress session.entries ++
        joinLines ((Tally.ofEntries session.entries).lines ++ resultLines returned) := by
    rw [textLines, List.append_assoc, joinLines_append, progress]
  cases result with
  | ok summary => exact appended (.ok summary)
  | error error => exact appended (.error error)
  | crash => exact String.append_empty.symm

/-- The command in text mode, unless it cannot start, begins with the texts of the run's entries, each
followed by a line feed. Each text is a line exactly if all it quotes are lines, and the heading
always is one; otherwise a text takes one line more for every line feed in what it quotes, so there
is one line for each entry exactly if no test name and no diagnostic holds a line feed. -/
theorem prints_entries (tools : Tools) (moment : Moment) (invocation : Invocation) (disk : Disk) :
    (∃ error, perform tools moment { invocation with json := false } disk = .error error) ∨
      ∃ settings world logger result session ending,
        readSettings disk invocation.config = .ok settings ∧
        External.run tools moment.family (invocation.applyTo settings) invocation.filter
          (.start world logger) = (result, session) ∧
        perform tools moment { invocation with json := false } disk = .ok ending ∧
        ending.stdout = progress session.entries ++ closingText session.entries result ∧
        Text.endedLines (progress session.entries).toList =
          (session.entries.filter Entry.isShown).flatMap Entry.lines ∧
        (∀ entry ∈ session.entries,
          (Text.IsLine entry.text ↔ ∀ quote ∈ entry.quotes, Text.IsLine quote) ∧
          entry.lines.length =
            1 + (entry.quotes.map fun quote => quote.toList.count '\n').sum) ∧
        (∀ message, .info message ∈ session.entries → Text.IsLine message) ∧
        ((Text.endedLines (progress session.entries).toList).length =
            (session.entries.filter Entry.isShown).length ↔
          ∀ entry ∈ session.entries, ∀ quote ∈ entry.quotes, '\n' ∉ quote.toList) ∧
        ((∀ entry ∈ session.entries, ∀ quote ∈ entry.quotes, '\n' ∉ quote.toList) →
          Text.endedLines (progress session.entries).toList =
            (session.entries.filter Entry.isShown).map fun entry => entry.text.toList) := by
  rcases perform_cases tools moment invocation disk with ⟨error, refused⟩ | started
  · exact .inl ⟨error, refused false⟩
  · obtain ⟨settings, world, logger, result, session, settled, ran, performed⟩ := started
    have headed := @External.isLine_of_info tools moment.family (invocation.applyTo settings)
      invocation.filter world logger
    rw [ran] at headed
    refine .inr ⟨settings, world, logger, result, session, _, settled, ran, performed false,
      stdout_finish result session, endedLines_progress session.entries, ?_, ?_,
      length_endedLines_progress_iff session.entries,
      endedLines_progress_of_notMem session.entries⟩
    · intro entry _
      exact ⟨entry.isLine_text_iff, entry.length_lines⟩
    · intro message told
      exact headed told

end CommandLine

theorem Basis.told_of_unbuilt {State Value : Type} (basis : Basis State Value) (content : Content)
    (filter : Option String) {cases : List TestCase}
    (discovered : content.discover basis.settings.corpus = .ok cases) {stage : Stage}
    (tested : stage ∈ basis.settings.selection.tested) {error : StageError}
    (unbuilt : basis.generation (basis.readingOf content.read) stage = .error error) :
    .buildFailed stage error.message ∈ basis.wholeEntries content filter := by
  have failure : ⟨stage, .stageUnavailable, error.message⟩ ∈
      basis.buildFailures (basis.readingOf content.read) := by
    apply List.mem_filterMap.mpr
    exact ⟨stage, tested, by rw [buildFailure?, unbuilt]⟩
  rw [wholeEntries, discovered]
  apply List.mem_append_left
  apply List.mem_cons_of_mem
  apply List.mem_append_left
  exact List.mem_map_of_mem failure

theorem CommandLine.broken_by_complaint {entries : List Entry} {stage : Stage}
    {opening complaint : String} (told : .buildFailed stage (opening ++ complaint) ∈ entries)
    (broken : '\n' ∈ complaint.toList) :
    (∃ entry ∈ entries, ¬Text.IsLine entry.text) ∧
      (Text.endedLines (progress entries).toList).length ≠
        (entries.filter Entry.isShown).length := by
  have shown : '\n' ∈ (opening ++ complaint).toList := by
    rw [String.toList_append]
    exact List.mem_append_right _ broken
  have quoted : opening ++ complaint ∈ (Entry.buildFailed stage (opening ++ complaint)).quotes :=
    List.mem_singleton.mpr rfl
  constructor
  · refine ⟨_, told, ?_⟩
    intro isLine
    exact (Entry.isLine_text_iff _).mp isLine _ quoted '\n' (by decide) shown
  · intro same
    exact (length_endedLines_progress_iff entries).mp same _ told _ quoted shown

namespace Toy

def complaining : Basis Engine Value :=
  ⟨oracle (some "1: no\n2: no") false, .default⟩

def refused : FileMap :=
  .ofList [(⟨"compiler/compiler.src"⟩, Utf8.encode "compiler x"),
    (⟨"tests/truth.src"⟩, Utf8.encode "test return #t")]

theorem refused_found : ∃ cases,
    (content refused []).discover complaining.settings.corpus = .ok cases := by
  have found : ((content refused []).discover complaining.settings.corpus).toOption.isSome =
      true := by decide +kernel
  obtain ⟨cases, answer⟩ := Option.isSome_iff_exists.mp found
  exact ⟨cases, (Result.toOption_eq_some_iff _ _).mp answer⟩

theorem refused_fails :
    complaining.FailsItself (complaining.readingOf (content refused []).read) .stage0
      (.compile .stage0 ⟨"1: no\n2: no"⟩) := by
  have readable : (content refused []).read ⟨"compiler/compiler.src"⟩ =
      .ok (Utf8.encode "compiler x") := by decide +kernel
  exact .refused (.host rfl) readable rfl

theorem complaint_takes_two_lines :
    ∃ entries, (Verification.run (environment (some "1: no\n2: no") false) complaining.settings none
        (.start (World.start refused []) (Log.Logger.new .info 0))).2.entries = entries ∧
      (∃ entry ∈ entries, ¬Text.IsLine entry.text) ∧
      (Text.endedLines (CommandLine.progress entries).toList).length ≠
        (entries.filter Entry.isShown).length := by
  obtain ⟨cases, discovered⟩ := refused_found
  have told := complaining.told_of_unbuilt (content refused []) none discovered (by decide)
    refused_fails.generation
  have known : Settled (environment (some "1: no\n2: no") false) complaining.oracle
      (content refused []) (Uncounted (Frozen refused [])) :=
    settled _ false refused []
  obtain ⟨-, entries⟩ := Verification.run_start known none (Log.Logger.new .info 0)
    (frozen_start refused [])
  exact ⟨_, entries, CommandLine.broken_by_complaint told (by decide)⟩

end Toy

end Bootstrap
