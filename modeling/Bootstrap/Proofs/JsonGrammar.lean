import Mathlib.Data.List.Basic
import Bootstrap.Json.Node

/-!
Which texts spell a node: the grammar of JSON over characters, and the reader's side of it. A text
of the grammar is read to its end, and what follows it is left for the next reader.
-/

namespace Bootstrap

namespace Json

abbrev Member := Option String × Node

def Blank (characters : List Char) : Prop :=
  ∀ character ∈ characters, isSpace character = true

def escapes : List (Char × Char) :=
  [('"', '"'), ('\\', '\\'), ('/', '/'), ('b', '\x08'), ('f', '\x0c'), ('n', '\n'), ('r', '\r'),
    ('t', '\t')]

inductive SpellsPieces : List Piece → List Char → Prop
  | nil : SpellsPieces [] []
  | plain {character pieces text} : character ≠ '"' → character ≠ '\\' → 0x20 ≤ character.toNat →
      SpellsPieces pieces text → SpellsPieces (.char character :: pieces) (character :: text)
  | escape {letter value pieces text} : (letter, value) ∈ escapes → SpellsPieces pieces text →
      SpellsPieces (.char value :: pieces) ('\\' :: letter :: text)
  | unit {a b c d first second third fourth pieces text} : hexDigit? a = some first →
      hexDigit? b = some second → hexDigit? c = some third → hexDigit? d = some fourth →
      SpellsPieces pieces text →
      SpellsPieces (.unit (((first * 16 + second) * 16 + third) * 16 + fourth) :: pieces)
        ('\\' :: 'u' :: a :: b :: c :: d :: text)

/-- A text between quotes; one with a lone half of a surrogate pair names no text. -/
inductive SpellsString : Option String → List Char → Prop
  | quoted {pieces text} : SpellsPieces pieces text →
      SpellsString ((joinPieces pieces).map String.ofList) ('"' :: (text ++ ['"']))

def Digits (characters : List Char) : Prop :=
  characters ≠ [] ∧ ∀ character ∈ characters, isDigit character = true

inductive SpellsFraction : Option (List Char) → List Char → Prop
  | absent : SpellsFraction none []
  | digits {digits} : Digits digits → SpellsFraction (some digits) ('.' :: digits)

inductive SpellsSign : Bool → List Char → Prop
  | absent : SpellsSign false []
  | plus : SpellsSign false ['+']
  | minus : SpellsSign true ['-']

inductive SpellsExponent : Option (Bool × List Char) → List Char → Prop
  | absent : SpellsExponent none []
  | digits {mark sign downward digits} : mark = 'e' ∨ mark = 'E' → SpellsSign downward sign →
      Digits digits → SpellsExponent (some (downward, digits)) (mark :: (sign ++ digits))

/-- No zero stands before another digit of the whole part. -/
inductive SpellsNumber : Number → List Char → Prop
  | parts {negative whole fraction exponent fractionText exponentText} : Digits whole →
      (whole.head? = some '0' → whole.length = 1) → SpellsFraction fraction fractionText →
      SpellsExponent exponent exponentText →
      SpellsNumber ⟨negative, whole, fraction, exponent⟩
        ((if negative then ['-'] else []) ++ (whole ++ (fractionText ++ exponentText)))

mutual

inductive Spells : Node → List Char → Prop
  | null : Spells .null ['n', 'u', 'l', 'l']
  | isTrue : Spells (.bool true) ['t', 'r', 'u', 'e']
  | isFalse : Spells (.bool false) ['f', 'a', 'l', 's', 'e']
  | number {token text} : SpellsNumber token text → Spells (.number token) text
  | string {value text} : SpellsString value text → Spells (.string value) text
  | noItems {blank} : Blank blank → Spells (.array [] .closed) ('[' :: (blank ++ [']']))
  | array {items blank text} : Blank blank → SpellsItems items text →
      Spells (.array items .closed) ('[' :: (blank ++ (text ++ [']'])))
  | noMembers {blank} : Blank blank → Spells (.object [] .closed) ('\x7b' :: (blank ++ ['\x7d']))
  | object {members blank text} : Blank blank → SpellsMembers members text →
      Spells (.object members .closed) ('\x7b' :: (blank ++ (text ++ ['\x7d'])))

/-- At least one item, and blanks up to the closing bracket. -/
inductive SpellsItems : List Node → List Char → Prop
  | last {item text blank} : Spells item text → Blank blank → SpellsItems [item] (text ++ blank)
  | more {item items text blank next rest} : Spells item text → Blank blank → Blank next →
      SpellsItems items rest →
      SpellsItems (item :: items) (text ++ (blank ++ ',' :: (next ++ rest)))

/-- At least one member, and blanks up to the closing brace. -/
inductive SpellsMembers : List Member → List Char → Prop
  | last {member text blank} : SpellsMember member text → Blank blank →
      SpellsMembers [member] (text ++ blank)
  | more {member members text blank next rest} : SpellsMember member text → Blank blank →
      Blank next → SpellsMembers members rest →
      SpellsMembers (member :: members) (text ++ (blank ++ ',' :: (next ++ rest)))

inductive SpellsMember : Member → List Char → Prop
  | named {name value nameText blank next text} : SpellsString name nameText → Blank blank →
      Blank next → Spells value text →
      SpellsMember (name, value) (nameText ++ (blank ++ ':' :: (next ++ text)))

end

inductive SpellsText : Node → String → Prop
  | value {node text before characters after} : Blank before → Spells node characters →
      Blank after → text.toList = before ++ (characters ++ after) → SpellsText node text

section blanks

theorem skipSpace_blank {blank : List Char} (isBlank : Blank blank) (rest : List Char) :
    skipSpace (blank ++ rest) = skipSpace rest := by
  induction blank with
  | nil => rfl
  | cons first blank ih =>
      have space : isSpace first = true := isBlank first (by simp)
      rw [← ih fun character member => isBlank character (by simp [member])]
      simp [skipSpace, space]

theorem skipSpace_of_not_space {first : Char} (visible : isSpace first = false)
    (rest : List Char) : skipSpace (first :: rest) = first :: rest := by
  simp [skipSpace, visible]

theorem skipSpace_to {blank : List Char} (isBlank : Blank blank) (first : Char)
    (visible : isSpace first = false) (rest : List Char) :
    skipSpace (blank ++ first :: rest) = first :: rest := by
  rw [skipSpace_blank isBlank, skipSpace_of_not_space visible]

end blanks

section strings

theorem simpleEscape?_of_mem {letter value : Char} (listed : (letter, value) ∈ escapes) :
    simpleEscape? letter = some value ∧ letter ≠ 'u' := by
  simp only [escapes, List.mem_cons, Prod.mk.injEq, List.not_mem_nil, or_false] at listed
  rcases listed with ⟨rfl, rfl⟩ | ⟨rfl, rfl⟩ | ⟨rfl, rfl⟩ | ⟨rfl, rfl⟩ | ⟨rfl, rfl⟩ | ⟨rfl, rfl⟩ |
    ⟨rfl, rfl⟩ | ⟨rfl, rfl⟩ <;> exact ⟨rfl, by decide⟩

theorem stringPieces_of_spells {pieces : List Piece} {text : List Char}
    (spelled : SpellsPieces pieces text) (rest : List Char) :
    stringPieces (text ++ '"' :: rest) = some (pieces, rest) := by
  induction spelled with
  | nil => rfl
  | @plain character pieces text noQuote noSlash visible _ ih =>
      have read : ¬(character = '\\' ∨ character.toNat < 0x20) := by
        rintro (slash | low)
        · exact noSlash slash
        · omega
      rw [List.cons_append, stringPieces, if_neg read, ih]
      · rfl
      · exact fun quote => noQuote quote
      · exact fun _ _ _ _ _ slash => absurd slash noSlash
      · exact fun _ _ slash => absurd slash noSlash
  | @escape letter value pieces text listed _ ih =>
      obtain ⟨known, notUnit⟩ := simpleEscape?_of_mem listed
      rw [List.cons_append, List.cons_append, stringPieces, known, ih]
      · rfl
      · exact fun _ _ _ _ _ isUnit => absurd isUnit notUnit
  | unit first second third fourth _ ih =>
      simp only [List.cons_append, stringPieces, first, second, third, fourth, ih, Option.map_some]

theorem readString_of_spells {value : Option String} {text : List Char}
    (spelled : SpellsString value text) (rest : List Char) :
    ∃ inner, text ++ rest = '"' :: inner ∧ readString inner = some (value, rest) := by
  obtain ⟨pieces⟩ := spelled
  refine ⟨_, by rw [List.cons_append, List.append_assoc, List.singleton_append], ?_⟩
  rw [readString, stringPieces_of_spells pieces]
  rfl

end strings

section numbers

def extendsNumber (character : Char) : Bool :=
  isDigit character || character = '.' || character = 'e' || character = 'E'

def Stops (rest : List Char) : Prop :=
  ∀ first ∈ rest.head?, extendsNumber first = false

theorem stops_nil : Stops [] := by
  simp [Stops]

theorem stops_blank {blank : List Char} (isBlank : Blank blank) {rest : List Char}
    (stops : Stops rest) : Stops (blank ++ rest) := by
  cases blank with
  | nil => exact stops
  | cons first blank =>
      have space : isSpace first = true := isBlank first (by simp)
      simp only [isSpace, Bool.or_eq_true, decide_eq_true_eq] at space
      rcases space with ((rfl | rfl) | rfl) | rfl <;> simp [Stops] <;> decide

theorem takeWhile_digits {digits rest : List Char} (isNumeral : Digits digits)
    (ends : ∀ first ∈ rest.head?, isDigit first = false) :
    (digits ++ rest).takeWhile isDigit = digits ∧ (digits ++ rest).dropWhile isDigit = rest := by
  have front : rest.takeWhile isDigit = [] ∧ rest.dropWhile isDigit = rest := by
    cases rest with
    | nil => exact ⟨rfl, rfl⟩
    | cons first rest => simp [ends first (by simp)]
  rw [List.takeWhile_append_of_pos isNumeral.2, List.dropWhile_append_of_pos isNumeral.2, front.1,
    front.2, List.append_nil]
  exact ⟨rfl, rfl⟩

theorem Stops.no_digit {rest : List Char} (stops : Stops rest) :
    ∀ first ∈ rest.head?, isDigit first = false := by
  intro first heads
  have plain := stops first heads
  simp only [extendsNumber, Bool.or_eq_false_iff] at plain
  exact plain.1.1.1

theorem readExponent_of_spells {exponent : Option (Bool × List Char)} {text rest : List Char}
    (spelled : SpellsExponent exponent text) (stops : Stops rest) :
    readExponent (text ++ rest) = some (exponent, rest) := by
  cases spelled with
  | absent =>
      cases rest with
      | nil => rfl
      | cons first rest =>
          have plain := stops first rfl
          simp only [extendsNumber, Bool.or_eq_false_iff, decide_eq_false_iff_not] at plain
          simp [readExponent, plain.1.2, plain.2]
  | @digits mark sign downward digits marked signed isNumeral =>
      obtain ⟨taken, left⟩ := takeWhile_digits isNumeral stops.no_digit
      obtain ⟨first, others, rfl⟩ := List.exists_cons_of_ne_nil isNumeral.1
      have digit : isDigit first = true := isNumeral.2 first (by simp)
      have unsigned : first ≠ '-' ∧ first ≠ '+' := by
        constructor <;> rintro rfl <;> simp [isDigit] at digit
      cases signed with
      | absent =>
          simp only [List.cons_append, List.nil_append] at taken left ⊢
          simp only [readExponent, marked, if_true]
          split
          next heads => exact absurd (List.cons.inj heads).1 unsigned.1
          next heads => exact absurd (List.cons.inj heads).1 unsigned.2
          next => simp [taken, left]
      | plus => simp_all [readExponent]
      | minus => simp_all [readExponent]

theorem SpellsExponent.head {exponent : Option (Bool × List Char)} {text rest : List Char}
    (spelled : SpellsExponent exponent text) (stops : Stops rest) :
    ∀ first ∈ (text ++ rest).head?, isDigit first = false ∧ first ≠ '.' := by
  cases spelled with
  | absent =>
      intro first heads
      have plain := stops first heads
      simp only [extendsNumber, Bool.or_eq_false_iff, decide_eq_false_iff_not] at plain
      exact plain.1.1
  | digits marked =>
      rintro first ⟨⟩
      rcases marked with rfl | rfl <;> decide

theorem readFraction_of_spells {fraction : Option (List Char)} {text rest : List Char}
    (spelled : SpellsFraction fraction text)
    (ends : ∀ first ∈ rest.head?, isDigit first = false ∧ first ≠ '.') :
    readFraction (text ++ rest) = some (fraction, rest) := by
  cases spelled with
  | absent =>
      rw [List.nil_append, readFraction]
      rintro after rfl
      exact (ends '.' rfl).2 rfl
  | @digits digits isNumeral =>
      obtain ⟨taken, left⟩ := takeWhile_digits isNumeral fun first heads => (ends first heads).1
      simp [readFraction, taken, left, isNumeral.1]

theorem SpellsFraction.no_digit {fraction : Option (List Char)} {text rest : List Char}
    (spelled : SpellsFraction fraction text)
    (ends : ∀ first ∈ rest.head?, isDigit first = false ∧ first ≠ '.') :
    ∀ first ∈ (text ++ rest).head?, isDigit first = false := by
  cases spelled with
  | absent => exact fun first heads => (ends first heads).1
  | digits =>
      rintro first ⟨⟩
      decide

theorem readNumber_of_spells {token : Number} {text rest : List Char}
    (spelled : SpellsNumber token text) (stops : Stops rest) :
    ∃ unsigned, text = (if token.negative then ['-'] else []) ++ unsigned ∧
      (∃ first ∈ unsigned.head?, isDigit first = true) ∧
      readNumber token.negative (unsigned ++ rest) = some (token, rest) := by
  obtain @⟨negative, whole, fraction, exponent, fractionText, exponentText, isNumeral, noZero,
    spelledFraction, spelledExponent⟩ := spelled
  refine ⟨_, rfl, ?_, ?_⟩
  · obtain ⟨first, others, rfl⟩ := List.exists_cons_of_ne_nil isNumeral.1
    exact ⟨first, rfl, isNumeral.2 first (by simp)⟩
  · obtain ⟨taken, left⟩ :=
      takeWhile_digits isNumeral (spelledFraction.no_digit (spelledExponent.head stops))
    have wellFormed : ¬(whole.isEmpty = true ∨ whole.head? = some '0' ∧ 1 < whole.length) := by
      rintro (empty | ⟨zero, long⟩)
      · exact isNumeral.1 (List.isEmpty_iff.mp empty)
      · have := noZero zero
        omega
    simp only [readNumber, List.append_assoc, taken, left, if_neg wellFormed,
      readFraction_of_spells spelledFraction (spelledExponent.head stops),
      readExponent_of_spells spelledExponent stops, Option.bind_eq_bind, Option.bind_some]

theorem isDigit_visible {character : Char} (digit : isDigit character = true) :
    isSpace character = false ∧ character ≠ '"' ∧ character ≠ '[' ∧ character ≠ ']' ∧
      character ≠ '\x7b' ∧ character ≠ '-' := by
  refine ⟨?_, ?_, ?_, ?_, ?_, ?_⟩
  · rw [Bool.eq_false_iff]
    intro space
    simp only [isSpace, Bool.or_eq_true, decide_eq_true_eq] at space
    rcases space with ((rfl | rfl) | rfl) | rfl <;> exact absurd digit (by decide)
  all_goals rintro rfl; exact absurd digit (by decide)

end numbers

section values

theorem Spells.first {node : Node} {text : List Char} (spelled : Spells node text) :
    ∃ first rest, text = first :: rest ∧ isSpace first = false ∧ first ≠ ']' := by
  cases spelled with
  | number spelled =>
      obtain ⟨unsigned, rfl, ⟨first, heads, digit⟩, -⟩ := readNumber_of_spells spelled stops_nil
      obtain ⟨others, rfl⟩ := List.head?_eq_some_iff.mp heads
      split
      · exact ⟨_, _, rfl, by decide, by decide⟩
      · exact ⟨_, _, rfl, (isDigit_visible digit).1, (isDigit_visible digit).2.2.2.1⟩
  | string spelled =>
      obtain ⟨pieces⟩ := spelled
      exact ⟨_, _, rfl, by decide, by decide⟩
  | _ => exact ⟨_, _, rfl, by decide, by decide⟩

theorem SpellsMember.first {member : Member} {text : List Char}
    (spelled : SpellsMember member text) : ∃ rest, text = '"' :: rest := by
  obtain ⟨name, -, -, -⟩ := spelled
  obtain ⟨pieces⟩ := name
  exact ⟨_, rfl⟩

theorem readValue_number {token : Number} {text rest : List Char}
    (spelled : SpellsNumber token text) (stops : Stops rest) (fuel : Nat) :
    readValue (fuel + 1) (text ++ rest) = (.number token, rest) := by
  obtain ⟨unsigned, rfl, ⟨first, heads, digit⟩, read⟩ := readNumber_of_spells spelled stops
  obtain ⟨others, rfl⟩ := List.head?_eq_some_iff.mp heads
  obtain ⟨-, noQuote, noBracket, -, noBrace, noSign⟩ := isDigit_visible digit
  cases sign : token.negative with
  | true =>
      rw [sign] at read
      simp only [if_true, List.cons_append, List.nil_append, readValue] at read ⊢
      simp [read, wholeNumber]
  | false =>
      rw [sign] at read
      simp only [Bool.false_eq_true, if_false, List.cons_append, List.nil_append, readValue] at read ⊢
      simp [noQuote, noBracket, noBrace, noSign, digit, read, wholeNumber]

theorem readWord_append (word : List Char) (node : Node) (rest : List Char) :
    readWord word node (word ++ rest) = (node, rest) := by
  rw [readWord, List.isPrefixOf?_eq_some_iff_append_eq.mpr rfl]

theorem readValue_null (fuel : Nat) (rest : List Char) :
    readValue (fuel + 1) ('n' :: 'u' :: 'l' :: 'l' :: rest) = (.null, rest) := by
  simpa [readValue, isDigit] using readWord_append ['u', 'l', 'l'] .null rest

theorem readValue_true (fuel : Nat) (rest : List Char) :
    readValue (fuel + 1) ('t' :: 'r' :: 'u' :: 'e' :: rest) = (.bool true, rest) := by
  simpa [readValue, isDigit] using readWord_append ['r', 'u', 'e'] (.bool true) rest

theorem readValue_false (fuel : Nat) (rest : List Char) :
    readValue (fuel + 1) ('f' :: 'a' :: 'l' :: 's' :: 'e' :: rest) = (.bool false, rest) := by
  simpa [readValue, isDigit] using readWord_append ['a', 'l', 's', 'e'] (.bool false) rest

theorem readValue_string {value : Option String} {text : List Char}
    (spelled : SpellsString value text) (fuel : Nat) (rest : List Char) :
    readValue (fuel + 1) (text ++ rest) = (.string value, rest) := by
  obtain ⟨inner, opened, read⟩ := readString_of_spells spelled rest
  rw [opened, readValue, if_pos rfl, read]

theorem readValue_array (fuel : Nat) (rest : List Char) :
    readValue (fuel + 1) ('[' :: rest) =
      (.array (readItems fuel true (skipSpace rest)).1 (readItems fuel true (skipSpace rest)).2.1,
        (readItems fuel true (skipSpace rest)).2.2) := by
  simp [readValue]

theorem readValue_object (fuel : Nat) (rest : List Char) :
    readValue (fuel + 1) ('\x7b' :: rest) =
      (.object (readMembers fuel true (skipSpace rest)).1
          (readMembers fuel true (skipSpace rest)).2.1,
        (readMembers fuel true (skipSpace rest)).2.2) := by
  simp [readValue]

theorem readItems_close (fuel : Nat) (isFirst : Bool) (rest : List Char) :
    readItems (fuel + 1) isFirst (']' :: rest) = ([], .closed, rest) := by
  simp [readItems]

theorem readMembers_close (fuel : Nat) (isFirst : Bool) (rest : List Char) :
    readMembers (fuel + 1) isFirst ('\x7d' :: rest) = ([], .closed, rest) := by
  simp [readMembers]

theorem SpellsItems.first {items : List Node} {text : List Char}
    (spelled : SpellsItems items text) :
    ∃ first rest, text = first :: rest ∧ isSpace first = false ∧ first ≠ ']' := by
  cases spelled with
  | last item | more item =>
      obtain ⟨first, rest, rfl, visible⟩ := item.first
      exact ⟨first, _, rfl, visible⟩

theorem SpellsMembers.first {members : List Member} {text : List Char}
    (spelled : SpellsMembers members text) : ∃ rest, text = '"' :: rest := by
  cases spelled with
  | last member | more member =>
      obtain ⟨rest, rfl⟩ := member.first
      exact ⟨_, rfl⟩

theorem readItems_comma {blank text : List Char} {items : List Node} (isBlank : Blank blank)
    (spelled : SpellsItems items text) (fuel : Nat) (rest : List Char) :
    readItems (fuel + 1) false (',' :: (blank ++ (text ++ rest))) =
      readItems (fuel + 1) true (text ++ rest) := by
  obtain ⟨first, others, rfl, visible, noClose⟩ := spelled.first
  rw [List.cons_append]
  simp [readItems, skipSpace_to isBlank _ visible, noClose]

theorem readMembers_comma {blank text : List Char} {members : List Member} (isBlank : Blank blank)
    (spelled : SpellsMembers members text) (fuel : Nat) (rest : List Char) :
    readMembers (fuel + 1) false (',' :: (blank ++ (text ++ rest))) =
      readMembers (fuel + 1) true (text ++ rest) := by
  obtain ⟨others, rfl⟩ := spelled.first
  rw [List.cons_append]
  simp [readMembers, skipSpace_to isBlank '"' (by decide)]

theorem readItems_step {fuel : Nat} {text rest after : List Char} {item : Node}
    (spelled : Spells item text) (read : readValue fuel (text ++ rest) = (item, after)) :
    readItems (fuel + 1) true (text ++ rest) =
      (item :: (readItems fuel false (skipSpace after)).1,
        (readItems fuel false (skipSpace after)).2) := by
  obtain ⟨first, others, rfl, -, noClose⟩ := spelled.first
  rw [List.cons_append] at read ⊢
  simp only [readItems, noClose, if_false, if_true, read]

theorem readMembers_step {fuel : Nat} {nameText blank next text rest after : List Char}
    {name : Option String} {value : Node} (named : SpellsString name nameText)
    (isBlank : Blank blank) (nextBlank : Blank next) (spelled : Spells value text)
    (read : readValue fuel (text ++ rest) = (value, after)) :
    readMembers (fuel + 2) true (nameText ++ (blank ++ ':' :: (next ++ text)) ++ rest) =
      ((name, value) :: (readMembers fuel false (skipSpace after)).1,
        (readMembers fuel false (skipSpace after)).2) := by
  obtain ⟨inner, opened, readName⟩ :=
    readString_of_spells named (blank ++ ':' :: (next ++ (text ++ rest)))
  obtain ⟨first, others, rfl, visible, -⟩ := spelled.first
  rw [List.cons_append] at read
  have colon : isSpace ':' = false := by decide
  simp only [List.append_assoc, List.cons_append] at opened ⊢
  rw [opened]
  simp [readMembers, readMember, readName, skipSpace_to isBlank _ colon,
    skipSpace_to nextBlank _ visible, read]

mutual

theorem readValue_of_spells : ∀ {node : Node} {text : List Char}, Spells node text →
    ∀ (fuel : Nat) (rest : List Char), 4 * text.length ≤ fuel + 1 → Stops rest →
      readValue (fuel + 1) (text ++ rest) = (node, rest)
  | _, _, .null, fuel, rest, _, _ => readValue_null fuel rest
  | _, _, .isTrue, fuel, rest, _, _ => readValue_true fuel rest
  | _, _, .isFalse, fuel, rest, _, _ => readValue_false fuel rest
  | _, _, .number spelled, fuel, _, _, stops => readValue_number spelled stops fuel
  | _, _, .string spelled, fuel, rest, _, _ => readValue_string spelled fuel rest
  | _, _, .noItems blank, fuel, rest, enough, _ => by
      obtain ⟨fuel, rfl⟩ : ∃ less, fuel = less + 1 := ⟨fuel - 1, by simp at enough; omega⟩
      simp [readValue_array, skipSpace_to blank ']' (by decide), readItems_close]
  | _, _, .noMembers blank, fuel, rest, enough, _ => by
      obtain ⟨fuel, rfl⟩ : ∃ less, fuel = less + 1 := ⟨fuel - 1, by simp at enough; omega⟩
      simp [readValue_object, skipSpace_to blank '\x7d' (by decide), readMembers_close]
  | _, _, .array blank spelled, fuel, rest, enough, _ => by
      obtain ⟨first, others, starts, visible, -⟩ := spelled.first
      have read := readItems_of_spells spelled fuel rest (by simp at enough; omega)
      have skipped := skipSpace_to blank _ visible (others ++ ']' :: rest)
      rw [← List.cons_append, ← starts] at skipped
      simp [readValue_array, skipped, read]
  | _, _, .object blank spelled, fuel, rest, enough, _ => by
      obtain ⟨others, starts⟩ := spelled.first
      have read := readMembers_of_spells spelled fuel rest (by simp at enough; omega)
      have skipped := skipSpace_to blank '"' (by decide) (others ++ '\x7d' :: rest)
      rw [← List.cons_append, ← starts] at skipped
      simp [readValue_object, skipped, read]

theorem readItems_of_spells : ∀ {items : List Node} {text : List Char}, SpellsItems items text →
    ∀ (fuel : Nat) (rest : List Char), 4 * text.length + 2 ≤ fuel →
      readItems fuel true (text ++ ']' :: rest) = (items, .closed, rest)
  | _, _, @SpellsItems.last _ _ blank spelled isBlank, fuel, rest, enough => by
      obtain ⟨fuel, rfl⟩ : ∃ less, fuel = less + 2 := ⟨fuel - 2, by omega⟩
      have read := readValue_of_spells spelled fuel (blank ++ ']' :: rest)
        (by simp at enough; omega) (stops_blank isBlank (by simp [Stops, extendsNumber, isDigit]))
      rw [List.append_assoc, readItems_step spelled read, skipSpace_to isBlank ']' (by decide),
        readItems_close]
  | _, _, @SpellsItems.more _ _ _ blank next others spelled isBlank nextBlank spelledRest, fuel,
      rest, enough => by
      obtain ⟨fuel, rfl⟩ : ∃ less, fuel = less + 2 := ⟨fuel - 2, by omega⟩
      have read := readValue_of_spells spelled fuel
        (blank ++ ',' :: (next ++ (others ++ ']' :: rest)))
        (by simp at enough; omega) (stops_blank isBlank (by simp [Stops, extendsNumber, isDigit]))
      have tail := readItems_of_spells spelledRest (fuel + 1) rest (by simp at enough; omega)
      simp only [List.append_assoc, List.cons_append]
      rw [readItems_step spelled read, skipSpace_to isBlank ',' (by decide),
        readItems_comma nextBlank spelledRest, tail]

theorem readMembers_of_spells : ∀ {members : List Member} {text : List Char},
    SpellsMembers members text → ∀ (fuel : Nat) (rest : List Char), 4 * text.length + 2 ≤ fuel →
      readMembers fuel true (text ++ '\x7d' :: rest) = (members, .closed, rest)
  | _, _, @SpellsMembers.last _ _ blank (.named named before after spelled) isBlank, fuel, rest,
      enough => by
      obtain ⟨fuel, rfl⟩ : ∃ less, fuel = less + 3 := ⟨fuel - 3, by simp at enough; omega⟩
      have read := readValue_of_spells spelled fuel (blank ++ '\x7d' :: rest)
        (by simp at enough; omega) (stops_blank isBlank (by simp [Stops, extendsNumber, isDigit]))
      rw [List.append_assoc, readMembers_step named before after spelled read,
        skipSpace_to isBlank '\x7d' (by decide), readMembers_close]
  | _, _, @SpellsMembers.more _ _ _ blank next others (.named named before after spelled) isBlank
      nextBlank spelledRest, fuel, rest, enough => by
      obtain ⟨fuel, rfl⟩ : ∃ less, fuel = less + 3 := ⟨fuel - 3, by simp at enough; omega⟩
      have read := readValue_of_spells spelled fuel
        (blank ++ ',' :: (next ++ (others ++ '\x7d' :: rest)))
        (by simp at enough; omega) (stops_blank isBlank (by simp [Stops, extendsNumber, isDigit]))
      have tail := readMembers_of_spells spelledRest (fuel + 1) rest (by simp at enough; omega)
      have shape : blank ++ ',' :: (next ++ others) ++ '\x7d' :: rest =
          blank ++ ',' :: (next ++ (others ++ '\x7d' :: rest)) := by simp
      rw [List.append_assoc _ _ ('\x7d' :: rest), shape,
        readMembers_step named before after spelled read, skipSpace_to isBlank ',' (by decide),
        readMembers_comma nextBlank spelledRest, tail]

end

/-- A text of the grammar is read whole: the reader finds its node, and only blanks behind it. -/
theorem readText_of_spells {node : Node} {text : String} (spelled : SpellsText node text) :
    readText text = (node, true) := by
  obtain @⟨before, characters, after, beforeBlank, spells, afterBlank, shape⟩ := spelled
  obtain ⟨first, others, rfl, visible, -⟩ := spells.first
  have start : skipSpace text.toList = first :: others ++ after := by
    rw [shape, List.cons_append, skipSpace_to beforeBlank _ visible]
  have stops : Stops after := by
    simpa using stops_blank afterBlank stops_nil
  have finish : skipSpace after = [] := by
    simpa [skipSpace] using skipSpace_blank afterBlank []
  have read := readValue_of_spells spells (4 * (first :: others ++ after).length + 3) after
    (by simp; omega) stops
  simp only [readText, start, enoughFuel, read, finish, List.isEmpty_nil]

mutual

theorem Spells.isWhole : ∀ {node : Node} {text : List Char}, Spells node text →
    node.isWhole = true
  | _, _, .null | _, _, .isTrue | _, _, .isFalse | _, _, .number _ | _, _, .string _
  | _, _, .noItems _ | _, _, .noMembers _ => rfl
  | _, _, .array _ items => items.allWhole
  | _, _, .object _ members => members.allMembersWhole

theorem SpellsItems.allWhole : ∀ {items : List Node} {text : List Char}, SpellsItems items text →
    Json.allWhole items = true
  | _, _, .last item _ => by simp [Json.allWhole, item.isWhole]
  | _, _, .more item _ _ items => by simp [Json.allWhole, item.isWhole, items.allWhole]

theorem SpellsMembers.allMembersWhole : ∀ {members : List Member} {text : List Char},
    SpellsMembers members text → Json.allMembersWhole members = true
  | _, _, .last (.named _ _ _ value) _ => by simp [Json.allMembersWhole, value.isWhole]
  | _, _, .more (.named _ _ _ value) _ _ members => by
      simp [Json.allMembersWhole, value.isWhole, members.allMembersWhole]

end

theorem SpellsText.isWhole {node : Node} {text : String} (spelled : SpellsText node text) :
    node.isWhole = true := by
  obtain ⟨-, spells, -, -⟩ := spelled
  exact spells.isWhole

end values

end Json

end Bootstrap
