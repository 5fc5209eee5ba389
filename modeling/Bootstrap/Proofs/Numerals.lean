import Mathlib.Data.Nat.Digits.Defs
import Mathlib.Tactic.Ring
import Mathlib.Data.List.DropRight
import Mathlib.Data.List.TakeWhile
import Bootstrap.Text.Blank
import Bootstrap.Text.Numeral

/-!
Reading plain texts: what is left of a text without the white space around it, and which numbers
decimal numerals denote.
-/

namespace Bootstrap

namespace Text

def AllBlank (characters : List Char) : Prop :=
  ∀ character ∈ characters, isBlank character = true

/-- A text is another one with white space around it, if with anything. -/
def Wraps (core text : List Char) : Prop :=
  ∃ before after, AllBlank before ∧ AllBlank after ∧ text = before ++ core ++ after

structure Bare (text : List Char) : Prop where
  front : ∀ character ∈ text.head?, isBlank character = false
  back : ∀ character ∈ text.getLast?, isBlank character = false

theorem trimStart_blank {before : List Char} (blank : AllBlank before) (rest : List Char) :
    trimStart (before ++ rest) = trimStart rest :=
  List.dropWhile_append_of_pos blank

theorem trimEnd_blank {after : List Char} (blank : AllBlank after) (rest : List Char) :
    trimEnd (rest ++ after) = trimEnd rest := by
  have reversed : ∀ character ∈ after.reverse, isBlank character = true :=
    fun character member => blank character (List.mem_reverse.mp member)
  rw [trimEnd, List.reverse_append, List.dropWhile_append_of_pos reversed, trimEnd]

theorem Wraps.trimChars_eq {core text : List Char} (wraps : Wraps core text) (bare : Bare core) :
    trimChars text = core := by
  obtain ⟨before, after, blankBefore, blankAfter, rfl⟩ := wraps
  rw [trimChars, List.append_assoc, trimStart_blank blankBefore]
  cases core with
  | nil =>
      have nothing : trimStart after = [] := List.dropWhile_eq_nil_iff.mpr blankAfter
      rw [List.nil_append, nothing]
      rfl
  | cons first rest =>
      have starts : trimStart (first :: rest ++ after) = first :: rest ++ after :=
        List.dropWhile_cons_of_neg (by simp [bare.front first rfl])
      have ends : trimEnd (first :: rest) = first :: rest := by
        refine List.rdropWhile_eq_self_iff.mpr fun nonempty blank => ?_
        have kept := bare.back _ (List.getLast?_eq_some_getLast nonempty)
        rw [blank] at kept
        cases kept
      rw [starts, trimEnd_blank blankAfter, ends]

theorem trimChars_wraps (text : List Char) : Wraps (trimChars text) text := by
  have ends := List.rdropWhile_append_rtakeWhile (p := isBlank) (l := trimStart text)
  refine ⟨text.takeWhile isBlank, (trimStart text).rtakeWhile isBlank, ?_, ?_, ?_⟩
  · intro character member
    exact List.mem_takeWhile_imp member
  · intro character member
    exact List.mem_rtakeWhile_imp member
  · rw [List.append_assoc, trimChars]
    exact List.takeWhile_append_dropWhile.symm.trans (congrArg _ ends.symm)

theorem trimChars_bare (text : List Char) : Bare (trimChars text) := by
  constructor
  · intro character first
    have start := List.head?_dropWhile_not isBlank text
    obtain ⟨tail, whole⟩ := List.rdropWhile_prefix isBlank (trimStart text)
    obtain ⟨rest, shape⟩ := List.head?_eq_some_iff.mp first
    have shown : (text.dropWhile isBlank).head? = some character := by
      rw [← trimStart, ← whole]
      exact congrArg List.head? (congrArg (· ++ tail) shape)
    rw [shown] at start
    exact start
  · intro character last
    have nonempty : trimChars text ≠ [] := by
      rintro nothing
      rw [nothing] at last
      cases last
    have final := List.rdropWhile_last_not isBlank (trimStart text) nonempty
    rw [List.getLast?_eq_some_getLast nonempty] at last
    obtain rfl := Option.some.inj last
    exact Bool.eq_false_iff.mpr final

theorem trim_eq_iff (text core : String) :
    trim text = core ↔ Wraps core.toList text.toList ∧ Bare core.toList := by
  rw [trim, ← String.toList_inj, String.toList_ofList]
  constructor
  · intro trimmed
    rw [← trimmed]
    exact ⟨trimChars_wraps text.toList, trimChars_bare text.toList⟩
  · rintro ⟨wraps, bare⟩
    exact wraps.trimChars_eq bare

end Text

namespace Numeral

def IsDigit (character : Char) : Prop :=
  '0' ≤ character ∧ character ≤ '9'

instance (character : Char) : Decidable (IsDigit character) :=
  inferInstanceAs (Decidable (_ ∧ _))

def valueOf (digits : List Char) : Nat :=
  Nat.ofDigits 10 (digits.reverse.map fun digit => digit.toNat - '0'.toNat)

structure IsNatural (digits : List Char) : Prop where
  nonempty : digits ≠ []
  digits : ∀ digit ∈ digits, IsDigit digit

inductive Denotes : List Char → Int → Prop
  | bare {digits} : IsNatural digits → Denotes digits (valueOf digits)
  | plus {digits} : IsNatural digits → Denotes ('+' :: digits) (valueOf digits)
  | minus {digits} : IsNatural digits → Denotes ('-' :: digits) (-(valueOf digits : Int))

theorem digit?_eq_some_iff (character : Char) (value : Nat) :
    digit? character = some value ↔ IsDigit character ∧ value = character.toNat - '0'.toNat := by
  unfold digit? IsDigit
  split
  next digit => simp [digit, eq_comm]
  next other => simp [other]

theorem valueOf_cons (digit : Char) (digits : List Char) :
    valueOf (digit :: digits) =
      (digit.toNat - '0'.toNat) * 10 ^ digits.length + valueOf digits := by
  simp [valueOf, Nat.ofDigits_append]
  ring

theorem digitsFrom_eq_some_iff (start : Nat) (digits : List Char) (value : Nat) :
    digitsFrom start digits = some value ↔
      (∀ digit ∈ digits, IsDigit digit) ∧ value = start * 10 ^ digits.length + valueOf digits := by
  induction digits generalizing start with
  | nil => simp [digitsFrom, valueOf, eq_comm]
  | cons digit digits ih =>
      rw [digitsFrom, Option.bind_eq_some_iff]
      constructor
      · rintro ⟨first, read, later⟩
        obtain ⟨isDigit, rfl⟩ := (digit?_eq_some_iff ..).mp read
        obtain ⟨areDigits, rfl⟩ := (ih _).mp later
        refine ⟨List.forall_mem_cons.mpr ⟨isDigit, areDigits⟩, ?_⟩
        rw [valueOf_cons, List.length_cons, pow_succ]
        ring
      · rintro ⟨areDigits, rfl⟩
        obtain ⟨isDigit, areDigits⟩ := List.forall_mem_cons.mp areDigits
        refine ⟨_, (digit?_eq_some_iff ..).mpr ⟨isDigit, rfl⟩, (ih _).mpr ⟨areDigits, ?_⟩⟩
        rw [valueOf_cons, List.length_cons, pow_succ]
        ring

theorem natural?_eq_some_iff (digits : List Char) (value : Nat) :
    natural? digits = some value ↔ IsNatural digits ∧ value = valueOf digits := by
  cases digits with
  | nil =>
      constructor
      · intro read
        cases read
      · rintro ⟨natural, _⟩
        exact absurd rfl natural.nonempty
  | cons digit digits =>
      rw [natural?, digitsFrom_eq_some_iff, Nat.zero_mul, Nat.zero_add]
      · refine and_congr_left fun _ => ⟨fun areDigits => ?_, IsNatural.digits⟩
        exact ⟨List.cons_ne_nil _ _, areDigits⟩
      · simp

theorem IsNatural.unsigned {digits : List Char} (natural : IsNatural digits) :
    signed? digits = (natural? digits).map Int.ofNat := by
  unfold signed?
  split
  next rest => exact absurd (natural.digits '+' List.mem_cons_self) (by decide)
  next rest => exact absurd (natural.digits '-' List.mem_cons_self) (by decide)
  next => rfl

theorem signed?_eq_some_iff (text : List Char) (value : Int) :
    signed? text = some value ↔ Denotes text value := by
  constructor
  · intro read
    unfold signed? at read
    split at read
    next digits =>
      obtain ⟨_, number, rfl⟩ := Option.map_eq_some_iff.mp read
      obtain ⟨natural, rfl⟩ := (natural?_eq_some_iff ..).mp number
      exact .plus natural
    next digits =>
      obtain ⟨_, number, rfl⟩ := Option.map_eq_some_iff.mp read
      obtain ⟨natural, rfl⟩ := (natural?_eq_some_iff ..).mp number
      exact .minus natural
    next =>
      obtain ⟨_, number, rfl⟩ := Option.map_eq_some_iff.mp read
      obtain ⟨natural, rfl⟩ := (natural?_eq_some_iff ..).mp number
      exact .bare natural
  · intro denotes
    cases denotes with
    | bare natural =>
        rw [natural.unsigned, (natural?_eq_some_iff ..).mpr ⟨natural, rfl⟩]
        rfl
    | plus natural =>
        rw [signed?, (natural?_eq_some_iff ..).mpr ⟨natural, rfl⟩]
        rfl
    | minus natural =>
        rw [signed?, (natural?_eq_some_iff ..).mpr ⟨natural, rfl⟩]
        rfl

theorem int64?_eq_some_iff (text : String) (value : Int) :
    int64? text = some value ↔
      Denotes text.toList value ∧ -2 ^ 63 ≤ value ∧ value ≤ 2 ^ 63 - 1 := by
  rw [int64?, Option.filter_eq_some_iff, signed?_eq_some_iff, decide_eq_true_eq, signedBound]
  constructor <;> rintro ⟨denotes, lower, upper⟩ <;> refine ⟨denotes, ?_, ?_⟩ <;> omega

end Numeral

end Bootstrap
