import Bootstrap.Proofs.LogLines
import Bootstrap.Proofs.Numerals

/-!
Times of day on a clock. A reader takes a clock's text apart into hours, minutes, seconds and
thousandths, and accepts exactly what is written for them; so the clock of a time stamp tells the
stamp up to whole days.
-/

namespace Bootstrap

namespace Numeral

theorem isDigit_iff (character : Char) : IsDigit character ↔ character.isDigit = true := by
  rw [Char.isDigit, Bool.and_eq_true, decide_eq_true_eq, decide_eq_true_eq]
  rfl

section digits

variable {digit : Char} {digits left right : List Char}

theorem digit_lt_ten (isDigit : IsDigit digit) : digit.toNat - '0'.toNat < 10 := by
  have upper : digit.toNat ≤ 57 := isDigit.2
  have zero : '0'.toNat = 48 := rfl
  omega

theorem digitChar_of_isDigit (isDigit : IsDigit digit) :
    Nat.digitChar (digit.toNat - '0'.toNat) = digit := by
  have lower : 48 ≤ digit.toNat := isDigit.1
  have zero : '0'.toNat = 48 := rfl
  apply Char.toNat_inj.mp
  rw [Nat.toNat_digitChar_of_lt_ten (digit_lt_ten isDigit)]
  omega

theorem map_digitChar (areDigits : ∀ digit ∈ digits, IsDigit digit) :
    (digits.map fun digit => digit.toNat - '0'.toNat).map Nat.digitChar = digits := by
  rw [List.map_map]
  have restored : ∀ digit ∈ digits, Nat.digitChar (digit.toNat - '0'.toNat) = id digit :=
    fun digit member => digitChar_of_isDigit (areDigits digit member)
  exact (List.map_congr_left restored).trans (List.map_id digits)

theorem valueOf_inj (sameLength : left.length = right.length)
    (leftDigits : ∀ digit ∈ left, IsDigit digit) (rightDigits : ∀ digit ∈ right, IsDigit digit) :
    valueOf left = valueOf right ↔ left = right := by
  refine ⟨fun same => ?_, congrArg valueOf⟩
  have below {digits : List Char} (areDigits : ∀ digit ∈ digits, IsDigit digit) :
      ∀ value ∈ digits.reverse.map fun digit => digit.toNat - '0'.toNat, value < 10 := by
    intro value member
    obtain ⟨digit, among, rfl⟩ := List.mem_map.mp member
    exact digit_lt_ten (areDigits digit (List.mem_reverse.mp among))
  have values := Nat.ofDigits_inj_of_len_eq (by decide) (by simpa using sameLength)
    (below leftDigits) (below rightDigits) same
  rw [List.map_reverse, List.map_reverse, List.reverse_inj] at values
  rw [← map_digitChar leftDigits, values, map_digitChar rightDigits]

end digits

theorem ofDigitChars_eq (start : Nat) (digits : List Char) :
    Nat.ofDigitChars 10 digits start = start * 10 ^ digits.length + valueOf digits := by
  induction digits generalizing start with
  | nil => simp [Nat.ofDigitChars, valueOf]
  | cons digit digits ih =>
      rw [Nat.ofDigitChars_cons, ih, valueOf_cons, List.length_cons, pow_succ]
      ring

theorem valueOf_toDigits (value : Nat) : valueOf (Nat.toDigits 10 value) = value := by
  have read := ofDigitChars_eq 0 (Nat.toDigits 10 value)
  rw [Nat.ofDigitChars_ten_toDigits, Nat.zero_mul, Nat.zero_add] at read
  exact read.symm

theorem valueOf_padded (width value : Nat) : valueOf (padded width value).toList = value := by
  have zero : '0'.toNat - '0'.toNat = 0 := rfl
  rw [padded, String.toList_ofList, padStart, valueOf, List.reverse_append, List.map_append,
    List.reverse_replicate, List.map_replicate, zero, Nat.ofDigits_append_replicate_zero]
  exact valueOf_toDigits value

theorem eq_toList_padded_iff {width value : Nat} (positive : 0 < width)
    (fits : value < 10 ^ width) (digits : List Char) :
    digits = (padded width value).toList ↔
      digits.length = width ∧ (∀ digit ∈ digits, IsDigit digit) ∧ valueOf digits = value := by
  have length := length_padded positive fits
  have areDigits : ∀ digit ∈ (padded width value).toList, IsDigit digit :=
    fun digit member => (isDigit_iff digit).mpr (isDigit_of_mem_padded member)
  constructor
  · rintro rfl
    exact ⟨length, areDigits, valueOf_padded width value⟩
  · rintro ⟨sameLength, theirs, denoted⟩
    rw [← valueOf_inj (sameLength.trans length.symm) theirs areDigits, valueOf_padded, denoted]

end Numeral

namespace Log

/-- The numbers that a clock shows, each in its range. -/
structure TimeOfDay where
  hours : Fin 24
  minutes : Fin 60
  seconds : Fin 60
  thousandths : Fin 1000
  deriving DecidableEq, Repr

namespace TimeOfDay

def inMilliseconds (time : TimeOfDay) : Nat :=
  ((time.hours * 60 + time.minutes) * 60 + time.seconds) * 1000 + time.thousandths

def ofStamp (stamp : Nat) : TimeOfDay where
  hours := Fin.ofNat 24 (stamp / 1000 / 3600)
  minutes := Fin.ofNat 60 (stamp / 1000 / 60)
  seconds := Fin.ofNat 60 (stamp / 1000)
  thousandths := Fin.ofNat 1000 stamp

/-- A day has 86400000 milliseconds, and each of them is one time of day. -/
theorem ofStamp_eq_iff (stamp : Nat) (time : TimeOfDay) :
    ofStamp stamp = time ↔ stamp % 86400000 = time.inMilliseconds := by
  obtain ⟨⟨hours, hoursBelow⟩, ⟨minutes, minutesBelow⟩, ⟨seconds, secondsBelow⟩,
    ⟨thousandths, thousandthsBelow⟩⟩ := time
  simp only [ofStamp, inMilliseconds, TimeOfDay.mk.injEq, Fin.ext_iff, Fin.val_ofNat]
  omega

theorem inMilliseconds_ofStamp (stamp : Nat) :
    (ofStamp stamp).inMilliseconds = stamp % 86400000 :=
  ((ofStamp_eq_iff stamp (ofStamp stamp)).mp rfl).symm

def text (time : TimeOfDay) : String :=
  Numeral.padded 2 time.hours ++ ":" ++ Numeral.padded 2 time.minutes ++ ":" ++
    Numeral.padded 2 time.seconds ++ "." ++ Numeral.padded 3 time.thousandths

theorem text_ofStamp (stamp : Nat) : (ofStamp stamp).text = clockText stamp :=
  rfl

abbrev Reader := StateT (List Char) Option

def numeral (width bound : Nat) : Reader (Fin bound) := fun characters => do
  guard (width ≤ characters.length)
  let value ← Numeral.natural? (characters.take width)
  if below : value < bound then some (⟨value, below⟩, characters.drop width) else none

def mark (character : Char) : Reader Unit := fun characters =>
  if characters.head? = some character then some ((), characters.tail) else none

def reader : Reader TimeOfDay := do
  let hours ← numeral 2 24
  mark ':'
  let minutes ← numeral 2 60
  mark ':'
  let seconds ← numeral 2 60
  mark '.'
  let thousandths ← numeral 3 1000
  return ⟨hours, minutes, seconds, thousandths⟩

def ofText? (text : String) : Option TimeOfDay :=
  ((reader.run text.toList).filter fun read => read.2.isEmpty).map Prod.fst

section

variable {width bound : Nat} (characters rest : List Char)

theorem run_numeral_eq_some_iff (positive : 0 < width) (fits : bound ≤ 10 ^ width)
    (value : Fin bound) : (numeral width bound).run characters = some (value, rest) ↔
      characters = (Numeral.padded width value).toList ++ rest := by
  have canonical := Numeral.eq_toList_padded_iff positive (value.isLt.trans_le fits)
  constructor
  · intro read
    obtain ⟨_, enough, read⟩ := Option.bind_eq_some_iff.mp read
    obtain ⟨number, shown, read⟩ := Option.bind_eq_some_iff.mp read
    obtain ⟨below, same⟩ := Option.dite_none_right_eq_some.mp read
    obtain ⟨rfl, rfl⟩ := Prod.mk.inj (Option.some.inj same)
    obtain ⟨natural, rfl⟩ := (Numeral.natural?_eq_some_iff ..).mp shown
    have long : width ≤ characters.length := by simpa using enough
    -- The number is below the bound, so the digits taken are its only numeral of this length.
    have whole := (canonical (characters.take width)).mpr
      ⟨List.length_take_of_le long, natural.digits, rfl⟩
    rw [← whole, List.take_append_drop]
  · rintro rfl
    obtain ⟨length, areDigits, denoted⟩ := (canonical _).mp rfl
    have nonempty := List.ne_nil_of_length_pos (positive.trans_eq length.symm)
    have shown := (Numeral.natural?_eq_some_iff ..).mpr ⟨⟨nonempty, areDigits⟩, denoted.symm⟩
    have enough : width ≤ (Numeral.padded width value).toList.length + rest.length := by omega
    simp [numeral, StateT.run, guard, enough, List.take_left' length, List.drop_left' length, shown]

theorem run_mark_eq_some_iff (character : Char) (done : Unit) :
    (mark character).run characters = some (done, rest) ↔ characters = character :: rest := by
  cases characters with
  | nil => simp [mark, StateT.run]
  | cons first others => simp [mark, StateT.run]

theorem run_reader_eq_some_iff (time : TimeOfDay) :
    reader.run characters = some (time, rest) ↔ characters = time.text.toList ++ rest := by
  obtain ⟨hours, minutes, seconds, thousandths⟩ := time
  have hour := @run_numeral_eq_some_iff 2 24
  have sixtieth := @run_numeral_eq_some_iff 2 60
  have thousandth := @run_numeral_eq_some_iff 3 1000
  simp [reader, Option.bind_eq_some_iff, hour, sixtieth, thousandth, run_mark_eq_some_iff, text]

end

theorem ofText?_eq_some_iff (text : String) (time : TimeOfDay) :
    ofText? text = some time ↔ text = time.text := by
  have whole := run_reader_eq_some_iff text.toList [] time
  rw [List.append_nil, String.toList_inj] at whole
  rw [← whole, ofText?]
  simp

theorem text_inj {time other : TimeOfDay} : time.text = other.text ↔ time = other := by
  have read := (ofText?_eq_some_iff time.text time).mpr rfl
  rw [← ofText?_eq_some_iff, read, Option.some.injEq]

end TimeOfDay

/-- The clock of a time stamp has twelve characters, digits and marks in their places. Its numbers
are in their ranges and give the milliseconds since midnight, so stamps that are whole days apart
have the same clock, and no others. -/
theorem clockText_tells_time_of_day (stamp : Nat) :
    (clockText stamp).length = 12 ∧ IsClock (clockText stamp).toList ∧
    (∃ time : TimeOfDay, TimeOfDay.ofText? (clockText stamp) = some time ∧
      time.inMilliseconds = stamp % 86400000) ∧
    ∀ other, clockText stamp = clockText other ↔ (86400000 : Int) ∣ (stamp : Int) - other := by
  have isClock := isClock_clockText stamp
  refine ⟨isClock.length_eq.symm, isClock, ⟨.ofStamp stamp, ?_, ?_⟩, fun other => ?_⟩
  · exact (TimeOfDay.ofText?_eq_some_iff ..).mpr (TimeOfDay.text_ofStamp stamp).symm
  · exact TimeOfDay.inMilliseconds_ofStamp stamp
  · rw [← TimeOfDay.text_ofStamp, ← TimeOfDay.text_ofStamp, TimeOfDay.text_inj,
      TimeOfDay.ofStamp_eq_iff, TimeOfDay.inMilliseconds_ofStamp]
    omega

example : clockText 18446744073709551615 = "14:25:51.615" := by decide

end Log

end Bootstrap
