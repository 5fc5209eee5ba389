import Mathlib.Algebra.BigOperators.Group.List.Basic
import Mathlib.Algebra.GroupWithZero.Nat
import Mathlib.Algebra.Order.BigOperators.Group.List
import Mathlib.Data.String.Basic
import Bootstrap.External.Run
import Bootstrap.Proofs.FileAppending
import Bootstrap.Proofs.ScratchNames

/-!
Log files by lines. A record is a single line exactly if its target and its message are; a log file
grows by each record's lines in order, and the first of them begins with a time and a level.
-/

namespace Bootstrap

namespace Text

def lineBreaks : List Char :=
  ['\n', '\x0b', '\x0c', '\r', '\x85', '\u2028', '\u2029']

def IsLine (text : String) : Prop :=
  ∀ character ∈ lineBreaks, character ∉ text.toList

def IsPlainChar (character : Char) : Prop :=
  ' ' ≤ character ∧ character ≤ '~'

instance (character : Char) : Decidable (IsPlainChar character) :=
  inferInstanceAs (Decidable (' ' ≤ character ∧ character ≤ '~'))

def IsPlain (characters : List Char) : Prop :=
  ∀ character ∈ characters, IsPlainChar character

instance (characters : List Char) : Decidable (IsPlain characters) :=
  List.decidableBAll IsPlainChar characters

theorem IsPlain.append {front back : List Char} (plain : IsPlain front) (more : IsPlain back) :
    IsPlain (front ++ back) := by
  intro character member
  rcases List.mem_append.mp member with inFront | inBack
  · exact plain character inFront
  · exact more character inBack

theorem isPlain_toDigits {base : Nat} (several : 1 < base) (low : base ≤ 16) (value : Nat) :
    IsPlain (Nat.toDigits base value) := by
  have single : ∀ digit < 16, IsPlainChar (Nat.digitChar digit) := by decide
  induction value using Nat.strongRecOn with
  | ind value ih =>
      by_cases small : value < base
      · rw [Nat.toDigits_of_lt_base small]
        intro character member
        rw [List.mem_singleton.mp member]
        exact single value (by omega)
      · rw [Nat.toDigits_of_base_le several (by omega)]
        apply (ih (value / base) (Nat.div_lt_self (by omega) several)).append
        intro character member
        rw [List.mem_singleton.mp member]
        exact single _ (Nat.lt_of_lt_of_le (Nat.mod_lt value (by omega)) low)

theorem not_isPlainChar_of_mem_lineBreaks : ∀ character ∈ lineBreaks, ¬IsPlainChar character := by
  simp only [lineBreaks, List.forall_mem_cons, List.not_mem_nil, false_implies, implies_true]
  decide

def endedLines (characters : List Char) : List (List Char) :=
  (splitChars '\n' characters).dropLast

theorem length_splitChars (separator : Char) (characters : List Char) :
    (splitChars separator characters).length = characters.count separator + 1 := by
  induction characters with
  | nil => rfl
  | cons character rest ih =>
      by_cases same : character = separator
      · simp [splitChars, same, ih]
      · obtain ⟨piece, pieces, shape⟩ :=
          List.exists_cons_of_ne_nil (splitChars_ne_nil separator rest)
        rw [shape] at ih
        simp [splitChars, same, shape, ← ih]

theorem splitChars_append_of_notMem {separator : Char} {front back piece : List Char}
    {pieces : List (List Char)} (whole : separator ∉ front)
    (tail : splitChars separator back = piece :: pieces) :
    splitChars separator (front ++ back) = (front ++ piece) :: pieces := by
  induction front with
  | nil => exact tail
  | cons character front ih =>
      obtain ⟨differs, later⟩ := not_or.mp (List.mem_cons.not.mp whole)
      rw [List.cons_append, splitChars, if_neg (Ne.symm differs), ih later]
      rfl

section ended

variable (texts : List String)

theorem endedLines_join : endedLines (String.join (texts.map fun text => text ++ "\n")).toList =
    texts.flatMap fun text => splitChars '\n' text.toList := by
  induction texts with
  | nil => rfl
  | cons text rest ih =>
      have shape : (String.join ((text :: rest).map fun text => text ++ "\n")).toList =
          text.toList ++ '\n' :: (String.join (rest.map fun text => text ++ "\n")).toList := by
        simp [String.join_cons]
      have some := splitChars_ne_nil '\n' (String.join (rest.map fun text => text ++ "\n")).toList
      rw [endedLines, shape, splitChars_append, List.dropLast_append_of_ne_nil some,
        List.flatMap_cons, ← ih]
      rfl

theorem length_endedLines_join :
    (endedLines (String.join (texts.map fun text => text ++ "\n")).toList).length =
      texts.length + (texts.map fun text => text.toList.count '\n').sum := by
  rw [endedLines_join]
  induction texts with
  | nil => rfl
  | cons text rest ih =>
      rw [List.flatMap_cons, List.length_append, ih, length_splitChars, List.length_cons,
        List.map_cons, List.sum_cons]
      omega

theorem length_endedLines_join_iff :
    (endedLines (String.join (texts.map fun text => text ++ "\n")).toList).length = texts.length ↔
      ∀ text ∈ texts, '\n' ∉ text.toList := by
  rw [length_endedLines_join, Nat.add_eq_left, List.sum_eq_zero_iff]
  simp only [List.mem_map, forall_exists_index, and_imp, forall_apply_eq_imp_iff₂,
    List.count_eq_zero]

theorem endedLines_join_of_notMem (unbroken : ∀ text ∈ texts, '\n' ∉ text.toList) :
    endedLines (String.join (texts.map fun text => text ++ "\n")).toList =
      texts.map String.toList := by
  have single : ∀ text ∈ texts, splitChars '\n' text.toList = [text.toList] := by
    intro text member
    exact splitChars_single (unbroken text member)
  rw [endedLines_join, List.flatMap_congr single, List.map_eq_flatMap]

end ended

end Text

namespace Numeral

theorem isPlainChar_of_isDigit {character : Char} (digit : character.isDigit = true) :
    Text.IsPlainChar character := by
  simp only [Char.isDigit, Bool.and_eq_true, decide_eq_true_eq] at digit
  constructor
  · exact Char.le_trans (by decide) digit.1
  · exact Char.le_trans digit.2 (by decide)

theorem isDigit_of_mem_padded {width value : Nat} {character : Char}
    (member : character ∈ (padded width value).toList) : character.isDigit = true := by
  simp only [padded, padStart, String.toList_ofList, List.mem_append, List.mem_replicate] at member
  rcases member with ⟨-, rfl⟩ | digit
  · decide
  · exact Nat.isDigit_of_mem_toDigits (by decide) (by decide) digit

theorem length_padded {width value : Nat} (positive : 0 < width) (fits : value < 10 ^ width) :
    (padded width value).toList.length = width := by
  have short : (Nat.toDigits 10 value).length ≤ width :=
    (Nat.length_toDigits_le_iff (by decide) positive).mpr fits
  simp only [padded, padStart, String.toList_ofList, List.length_append, List.length_replicate]
  omega

end Numeral

namespace Log

/-- Whether a character may stand where a sample has the given one: a zero stands for any digit. -/
def Fits (sample character : Char) : Prop :=
  if sample = '0' then character.isDigit = true else character = sample

def IsClock (characters : List Char) : Prop :=
  List.Forall₂ Fits "00:00:00.000".toList characters

/-- A line that begins with a time of day in brackets and the name of a level. -/
def IsEntry (line : List Char) : Prop :=
  ∃ clock, IsClock clock ∧ ∃ (level : Level) (rest : List Char),
    line = '[' :: clock ++ "] ".toList ++ level.name.toList ++ ' ' :: rest

theorem fits_self {character : Char} (noZero : character ≠ '0') : Fits character character := by
  simp [Fits, noZero]

theorem fits_padded {width value : Nat} (positive : 0 < width) (below : value < 10 ^ width) :
    List.Forall₂ Fits (List.replicate width '0') (Numeral.padded width value).toList := by
  rw [List.forall₂_iff_get]
  refine ⟨by rw [Numeral.length_padded positive below, List.length_replicate], ?_⟩
  intro index _ bound
  have digit := Numeral.isDigit_of_mem_padded (List.get_mem _ ⟨index, bound⟩)
  simpa [Fits] using digit

theorem isClock_clockText (milliseconds : Nat) : IsClock (clockText milliseconds).toList := by
  have hours := @fits_padded 2 (milliseconds / 1000 / 3600 % 24) (by decide) (by omega)
  have minutes := @fits_padded 2 (milliseconds / 1000 / 60 % 60) (by decide) (by omega)
  have seconds := @fits_padded 2 (milliseconds / 1000 % 60) (by decide) (by omega)
  have thousandths := @fits_padded 3 (milliseconds % 1000) (by decide) (by omega)
  have colon : List.Forall₂ Fits [':'] [':'] := .cons (fits_self (by decide)) .nil
  have point : List.Forall₂ Fits ['.'] ['.'] := .cons (fits_self (by decide)) .nil
  have shape : (clockText milliseconds).toList =
      (Numeral.padded 2 (milliseconds / 1000 / 3600 % 24)).toList ++
        ([':'] ++ ((Numeral.padded 2 (milliseconds / 1000 / 60 % 60)).toList ++
          ([':'] ++ ((Numeral.padded 2 (milliseconds / 1000 % 60)).toList ++
            (['.'] ++ (Numeral.padded 3 (milliseconds % 1000)).toList))))) := by
    simp [clockText]
  rw [IsClock, shape]
  exact List.rel_append hours (List.rel_append colon (List.rel_append minutes (List.rel_append colon
    (List.rel_append seconds (List.rel_append point thousandths)))))

theorem Fits.isPlainChar {sample character : Char} (fits : Fits sample character)
    (plain : Text.IsPlainChar sample) : Text.IsPlainChar character := by
  unfold Fits at fits
  split at fits
  · exact Numeral.isPlainChar_of_isDigit fits
  · rw [fits]
    exact plain

theorem IsClock.isPlain {characters : List Char} (isClock : IsClock characters) :
    Text.IsPlain characters := by
  intro character member
  obtain ⟨index, bound, found⟩ := List.getElem_of_mem member
  obtain ⟨sameLength, fits⟩ := List.forall₂_iff_get.mp isClock
  have fit := fits index (by omega) bound
  have plain : Text.IsPlain "00:00:00.000".toList := by decide
  rw [← found]
  exact fit.isPlainChar (plain _ (List.get_mem _ _))

theorem Level.isPlain_name (level : Level) : Text.IsPlain level.name.toList := by
  cases level <;> decide

namespace Record

def head (record : Record) : List Char :=
  ['['] ++ (clockText record.time).toList ++ "] ".toList ++ record.level.name.toList ++ [' ']

def middle (record : Record) : List Char :=
  (record.span.elim [] fun number => " [span=".toList ++ Nat.toDigits 10 number ++ [']']) ++
    ": ".toList

theorem toList_format (record : Record) : record.format.toList =
    record.head ++ record.target.toList ++ record.middle ++ record.message.toList := by
  rcases record with ⟨time, level, target, message, span⟩
  cases span <;> simp [format, head, middle]

theorem isPlain_head (record : Record) : Text.IsPlain record.head := by
  have opening : Text.IsPlain ['['] := by decide
  have closing : Text.IsPlain "] ".toList := by decide
  have blank : Text.IsPlain [' '] := by decide
  exact (((opening.append (isClock_clockText record.time).isPlain).append closing).append
    record.level.isPlain_name).append blank

theorem isPlain_middle (record : Record) : Text.IsPlain record.middle := by
  have colon : Text.IsPlain ": ".toList := by decide
  rw [middle]
  cases record.span with
  | none => exact colon
  | some number =>
      have opening : Text.IsPlain " [span=".toList := by decide
      have closing : Text.IsPlain [']'] := by decide
      have digits := Text.isPlain_toDigits (show 1 < 10 by omega) (by omega) number
      exact ((opening.append digits).append closing).append colon

theorem count_format (record : Record) {character : Char} (special : ¬Text.IsPlainChar character) :
    record.format.toList.count character =
      record.target.toList.count character + record.message.toList.count character := by
  have noHead : record.head.count character = 0 :=
    List.count_eq_zero.mpr fun member => special (record.isPlain_head character member)
  have noMiddle : record.middle.count character = 0 :=
    List.count_eq_zero.mpr fun member => special (record.isPlain_middle character member)
  rw [toList_format, List.count_append, List.count_append, List.count_append, noHead, noMiddle]
  omega

theorem not_mem_format_iff (record : Record) {character : Char}
    (special : ¬Text.IsPlainChar character) :
    character ∉ record.format.toList ↔
      character ∉ record.target.toList ∧ character ∉ record.message.toList := by
  rw [← List.count_eq_zero, ← List.count_eq_zero, ← List.count_eq_zero, count_format record special]
  omega

theorem isLine_format_iff (record : Record) :
    Text.IsLine record.format ↔ Text.IsLine record.target ∧ Text.IsLine record.message := by
  constructor
  · intro isLine
    constructor <;> intro character listed
    · have special := Text.not_isPlainChar_of_mem_lineBreaks character listed
      exact ((record.not_mem_format_iff special).mp (isLine character listed)).1
    · have special := Text.not_isPlainChar_of_mem_lineBreaks character listed
      exact ((record.not_mem_format_iff special).mp (isLine character listed)).2
  · rintro ⟨target, message⟩ character listed
    have special := Text.not_isPlainChar_of_mem_lineBreaks character listed
    exact (record.not_mem_format_iff special).mpr
      ⟨target character listed, message character listed⟩

theorem isEntry_head (record : Record) (rest : List Char) : IsEntry (record.head ++ rest) := by
  refine ⟨_, isClock_clockText record.time, record.level, rest, ?_⟩
  simp [head]

end Record

def written (records : List Record) : String :=
  String.join (records.map fun record => record.format ++ "\n")

def Record.lines (record : Record) : List (List Char) :=
  Text.splitChars '\n' record.format.toList

theorem written_cons (record : Record) (records : List Record) :
    written (record :: records) = record.format ++ "\n" ++ written records := by
  simp [written, String.join_cons]

theorem written_eq_join (records : List Record) : written records =
    String.join ((records.map Record.format).map fun text => text ++ "\n") := by
  rw [written, List.map_map]
  rfl

theorem endedLines_written (records : List Record) :
    Text.endedLines (written records).toList = records.flatMap Record.lines := by
  rw [written_eq_join, Text.endedLines_join, List.flatMap_map]
  rfl

theorem Record.length_lines (record : Record) : record.lines.length =
    1 + (record.target.toList.count '\n' + record.message.toList.count '\n') := by
  have special : ¬Text.IsPlainChar '\n' := by decide
  rw [lines, Text.length_splitChars, count_format record special]
  omega

theorem Record.isEntry_first (record : Record) :
    ∃ first rest, record.lines = first :: rest ∧ IsEntry first := by
  have special : ¬Text.IsPlainChar '\n' := by decide
  -- The head is whole at the beginning of the first line, whatever follows.
  have whole : '\n' ∉ record.head := fun member =>
    special (record.isPlain_head '\n' member)
  have shape : record.format.toList = record.head ++
      (record.target.toList ++ (record.middle ++ record.message.toList)) := by
    simp [toList_format]
  obtain ⟨piece, rest, tail⟩ := List.exists_cons_of_ne_nil (Text.splitChars_ne_nil '\n'
    (record.target.toList ++ (record.middle ++ record.message.toList)))
  refine ⟨record.head ++ piece, rest, ?_, record.isEntry_head piece⟩
  rw [lines, shape, Text.splitChars_append_of_notMem whole tail]

theorem Record.lines_of_notMem {record : Record} (target : '\n' ∉ record.target.toList)
    (message : '\n' ∉ record.message.toList) : record.lines = [record.format.toList] := by
  have special : ¬Text.IsPlainChar '\n' := by decide
  exact Text.splitChars_single ((record.not_mem_format_iff special).mpr ⟨target, message⟩)

theorem Record.lines_of_message {record : Record} (target : '\n' ∉ record.target.toList)
    {piece : List Char} {rest : List (List Char)}
    (split : Text.splitChars '\n' record.message.toList = piece :: rest) :
    record.lines = (record.head ++ record.target.toList ++ record.middle ++ piece) :: rest := by
  have special : ¬Text.IsPlainChar '\n' := by decide
  have whole : '\n' ∉ record.head ++ record.target.toList ++ record.middle := by
    intro member
    rcases List.mem_append.mp member with before | inMiddle
    · rcases List.mem_append.mp before with inHead | inTarget
      · exact special (record.isPlain_head '\n' inHead)
      · exact target inTarget
    · exact special (record.isPlain_middle '\n' inMiddle)
  rw [lines, toList_format, Text.splitChars_append_of_notMem whole split]

theorem length_endedLines_written_iff (records : List Record) :
    (Text.endedLines (written records).toList).length = records.length ↔
      ∀ record ∈ records, '\n' ∉ record.target.toList ∧ '\n' ∉ record.message.toList := by
  have special : ¬Text.IsPlainChar '\n' := by decide
  have formats := Text.length_endedLines_join_iff (records.map Record.format)
  rw [List.length_map, ← written_eq_join] at formats
  rw [formats, List.forall_mem_map]
  simp only [Record.not_mem_format_iff _ special]

namespace Logger

def waitingFor (logger : Logger) (handle : Nat) : List Record :=
  (logger.outbox.filter fun delivery => delivery.1 = handle).map Prod.snd

theorem contentOf?_appendLine (handle other : Nat) (line : String) (world : External.World) :
    (External.appendLine other line world).disk.contentOf? handle =
      (world.disk.contentOf? handle).map fun before =>
        before ++ if handle = other then Utf8.encode (line ++ "\n") else [] :=
  world.disk.contentOf?_append other (Utf8.encode (line ++ "\n")) handle

theorem contentOf?_flush (logger : Logger) (world : External.World) (handle : Nat) :
    (logger.flush External.appendLine world).2.disk.contentOf? handle =
      (world.disk.contentOf? handle).map fun before =>
        before ++ Utf8.encode (written (logger.waitingFor handle)) := by
  simp only [flush, waitingFor]
  induction logger.outbox generalizing world with
  | nil => simp [written, Utf8.encode]
  | cons delivery rest ih =>
      rw [List.foldl_cons, ih, contentOf?_appendLine, Option.map_map]
      congr 1
      funext before
      by_cases mine : delivery.1 = handle
      · simp [mine, written_cons, Utf8.encode]
      · simp [mine, Ne.symm mine]

/-- A record is a line exactly if its target and its message are. A file grows by the lines of the
records that are written to it, one after the other, each of which begins with a time and a level and
takes one line more for every line feed in its target and its message; there are as many of them as
records exactly if no record holds a line feed, and then each is what the record is formatted to. -/
theorem flush_writes_lines (logger : Logger) (world : External.World) (handle : Nat) :
    let records := logger.waitingFor handle
    let lines := Text.endedLines (written records).toList
    (∀ record : Record, Text.IsLine record.format ↔
      Text.IsLine record.target ∧ Text.IsLine record.message) ∧
    (logger.flush External.appendLine world).2.disk.contentOf? handle =
      (world.disk.contentOf? handle).map (fun before => before ++ Utf8.encode (written records)) ∧
    lines = records.flatMap Record.lines ∧
    (∀ record ∈ records, (∃ first rest, record.lines = first :: rest ∧ IsEntry first) ∧
      record.lines.length =
        1 + (record.target.toList.count '\n' + record.message.toList.count '\n')) ∧
    (lines.length = records.length ↔
      ∀ record ∈ records, '\n' ∉ record.target.toList ∧ '\n' ∉ record.message.toList) ∧
    (lines.length = records.length →
      lines = records.map (fun record => record.format.toList) ∧ ∀ line ∈ lines, IsEntry line) := by
  intro records lines
  have shape : lines = records.flatMap Record.lines := endedLines_written records
  refine ⟨Record.isLine_format_iff, logger.contentOf?_flush world handle, shape,
    fun record _ => ⟨record.isEntry_first, record.length_lines⟩, length_endedLines_written_iff records, ?_⟩
  intro asMany
  have unbroken := (length_endedLines_written_iff records).mp asMany
  have single : ∀ record ∈ records, record.lines = [record.format.toList] := by
    intro record member
    obtain ⟨target, message⟩ := unbroken record member
    exact Record.lines_of_notMem target message
  have formats : lines = records.map fun record => record.format.toList := by
    rw [shape, List.flatMap_congr single, List.map_eq_flatMap]
  refine ⟨formats, ?_⟩
  rw [formats]
  intro line member
  obtain ⟨record, listed, rfl⟩ := List.mem_map.mp member
  obtain ⟨first, rest, split, isEntry⟩ := record.isEntry_first
  rw [single record listed] at split
  rw [(List.cons.inj split).1]
  exact isEntry

end Logger

def quoting : Record :=
  ⟨0, .debug, Target.trials, "a: stage0 failed (compile): cc exited with exit status: 1: 1: no\n2: no",
    some 1⟩

theorem quoting_takes_two_lines :
    ¬Text.IsLine quoting.format ∧
      (Text.endedLines (written [quoting]).toList).length = 2 ∧
      "2: no".toList ∈ Text.endedLines (written [quoting]).toList ∧ ¬IsEntry "2: no".toList := by
  have split : Text.splitChars '\n' quoting.message.toList =
      ["a: stage0 failed (compile): cc exited with exit status: 1: 1: no".toList,
        "2: no".toList] := by
    decide +kernel
  obtain ⟨first, lines⟩ : ∃ first, Text.endedLines (written [quoting]).toList =
      [first, "2: no".toList] := by
    rw [endedLines_written, List.flatMap_singleton]
    exact ⟨_, Record.lines_of_message (by decide +kernel) split⟩
  refine ⟨?_, ?_, ?_, ?_⟩
  · intro isLine
    have unbroken := (Record.isLine_format_iff quoting).mp isLine
    exact unbroken.2 '\n' (by decide) (by decide +kernel)
  · rw [lines]
    rfl
  · rw [lines]
    simp
  · rintro ⟨clock, -, level, rest, shape⟩
    have first := congrArg List.head? shape
    simp at first

end Log

end Bootstrap
