import Bootstrap.Json.Value
import Bootstrap.Proofs.JsonGrammar

/-!
Both written forms of a value are texts of the grammar, for any characters in its strings, so that
reading a written value finds its node.
-/

namespace Bootstrap

namespace Json

section strings

theorem padded_hex : ∀ code < 32,
    Numeral.padStart 4 (Nat.toDigits 16 code) =
        ['0', '0', Nat.digitChar (code / 16), Nat.digitChar (code % 16)] ∧
      hexDigit? (Nat.digitChar (code / 16)) = some (code / 16) ∧
      hexDigit? (Nat.digitChar (code % 16)) = some (code % 16) := by
  decide

theorem spells_escapeChar (character : Char) : ∃ piece,
    (∀ rest, joinPieces (piece :: rest) = (joinPieces rest).map (character :: ·)) ∧
      ∀ pieces text, SpellsPieces pieces text →
        SpellsPieces (piece :: pieces) (escapeChar character ++ text) := by
  have short (letter value : Char) (listed : (letter, value) ∈ escapes) : ∃ piece,
      (∀ rest, joinPieces (piece :: rest) = (joinPieces rest).map (value :: ·)) ∧
        ∀ pieces text, SpellsPieces pieces text →
          SpellsPieces (piece :: pieces) (['\\', letter] ++ text) :=
    ⟨.char value, fun _ => rfl, fun _ _ spelled => .escape listed spelled⟩
  unfold escapeChar
  split
  next same => exact same ▸ short '"' '"' (by decide)
  split
  next same => exact same ▸ short '\\' '\\' (by decide)
  split
  next same => exact same ▸ short 'n' '\n' (by decide)
  split
  next same => exact same ▸ short 'r' '\r' (by decide)
  split
  next same => exact same ▸ short 't' '\t' (by decide)
  split
  next same => exact same ▸ short 'b' '\x08' (by decide)
  split
  next same => exact same ▸ short 'f' '\x0c' (by decide)
  split
  next low =>
    obtain ⟨shape, high, final⟩ := padded_hex character.toNat low
    have code : ((0 * 16 + 0) * 16 + character.toNat / 16) * 16 + character.toNat % 16 =
        character.toNat := by omega
    refine ⟨.unit character.toNat, fun rest => ?_, fun pieces text spelled => ?_⟩
    · have single : isHighSurrogate character.toNat = false ∧
          isLowSurrogate character.toNat = false := by
        constructor <;> simp [isHighSurrogate, isLowSurrogate] <;> omega
      rw [joinPieces.eq_def]
      simp [single.1, single.2, Char.ofNat_toNat]
    · have zero : hexDigit? '0' = some 0 := by decide
      have unit := SpellsPieces.unit zero zero high final spelled
      rw [code] at unit
      simpa [shape] using unit
  next noQuote noSlash _ _ _ _ _ visible =>
    exact ⟨.char character, fun _ => rfl, fun _ _ spelled =>
      .plain noQuote noSlash (by omega) spelled⟩

theorem spells_flatMap_escapeChar (characters : List Char) :
    ∃ pieces, joinPieces pieces = some characters ∧
      SpellsPieces pieces (characters.flatMap escapeChar) := by
  induction characters with
  | nil => exact ⟨[], rfl, .nil⟩
  | cons character characters ih =>
      obtain ⟨pieces, joined, spelled⟩ := ih
      obtain ⟨piece, stands, extend⟩ := spells_escapeChar character
      exact ⟨piece :: pieces, by rw [stands, joined, Option.map_some], extend _ _ spelled⟩

theorem spells_quoted (text : String) : SpellsString (some text) (quoted text) := by
  obtain ⟨pieces, joined, spelled⟩ := spells_flatMap_escapeChar text.toList
  have stands : (joinPieces pieces).map String.ofList = some text := by
    rw [joined, Option.map_some, String.ofList_toList]
  exact stands ▸ .quoted spelled

end strings

section numbers

def token (value : Int) : Number :=
  ⟨decide (value < 0), Nat.toDigits 10 value.natAbs, none, none⟩

theorem digits_toDigits (value : Nat) : Digits (Nat.toDigits 10 value) := by
  refine ⟨Nat.toDigits_ne_nil, fun character member => ?_⟩
  have digit := Nat.isDigit_of_mem_toDigits (by decide) (by decide) member
  simp only [Char.isDigit, Bool.and_eq_true, decide_eq_true_eq] at digit
  simp only [isDigit, Bool.and_eq_true, decide_eq_true_eq]
  exact digit

theorem head_toDigits_ne_zero (value : Nat) (positive : 0 < value) :
    (Nat.toDigits 10 value).head? ≠ some '0' := by
  induction value using Nat.strongRecOn with
  | ind value ih =>
      by_cases small : value < 10
      · rw [Nat.toDigits_of_lt_base small]
        have nonzero : ∀ digit < 10, 0 < digit → Nat.digitChar digit ≠ '0' := by decide
        simpa using nonzero value small positive
      · obtain ⟨first, rest, shape⟩ :=
          List.exists_cons_of_ne_nil (digits_toDigits (value / 10)).1
        have higher := ih (value / 10) (by omega) (by omega)
        rw [Nat.toDigits_of_base_le (by decide) (by omega), shape]
        rwa [shape] at higher

theorem spells_numeral (value : Int) : SpellsNumber (token value) (numeral value) := by
  have noZero : (Nat.toDigits 10 value.natAbs).head? = some '0' →
      (Nat.toDigits 10 value.natAbs).length = 1 := by
    intro zero
    by_cases positive : 0 < value.natAbs
    · exact absurd zero (head_toDigits_ne_zero _ positive)
    · rw [Nat.eq_zero_of_not_pos positive]
      rfl
  have spelled : SpellsNumber (token value) ((if decide (value < 0) = true then ['-'] else []) ++
      (Nat.toDigits 10 value.natAbs ++ ([] ++ []))) :=
    .parts (digits_toDigits value.natAbs) noZero .absent .absent
  have shape : numeral value = (if decide (value < 0) = true then ['-'] else []) ++
      (Nat.toDigits 10 value.natAbs ++ ([] ++ [])) := by
    by_cases negative : value < 0 <;> simp [numeral, negative]
  rw [shape]
  exact spelled

end numbers

section values

mutual

def node : Json → Node
  | .null => .null
  | .bool value => .bool value
  | .number value => .number (token value)
  | .string text => .string (some text)
  | .array items => .array (itemNodes items) .closed
  | .object members => .object (memberNodes members) .closed

def itemNodes : List Json → List Node
  | [] => []
  | item :: items => item.node :: itemNodes items

def memberNodes : List (String × Json) → List Member
  | [] => []
  | (name, value) :: members => (some name, value.node) :: memberNodes members

end

theorem spells_boolChars (value : Bool) : Spells (.bool value) (boolChars value) := by
  cases value with
  | true => exact .isTrue
  | false => exact .isFalse

theorem blank_nil : Blank [] := by
  simp [Blank]

theorem blank_gap : Blank [' '] := by
  simp [Blank, isSpace]

theorem blank_lineBreak (level : Nat) : Blank (lineBreak level) := by
  simp [Blank, lineBreak, isSpace]

theorem spells_member {value : Json} {blank text : List Char} (name : String)
    (isBlank : Blank blank) (spelled : Spells value.node text) :
    SpellsMember (some name, value.node) (quoted name ++ ':' :: (blank ++ text)) :=
  .named (spells_quoted name) blank_nil isBlank spelled

mutual

theorem spells_compactChars : ∀ value : Json, Spells value.node (compactChars value)
  | .null => .null
  | .bool value => spells_boolChars value
  | .number value => .number (spells_numeral value)
  | .string text => .string (spells_quoted text)
  | .array [] => .noItems blank_nil
  | .array (item :: items) => by
      obtain ⟨text, closed, spelled⟩ := spells_compactItems items (spells_compactChars item)
      rw [compactChars, closed]
      exact .array blank_nil spelled
  | .object [] => .noMembers blank_nil
  | .object ((name, value) :: members) => by
      obtain ⟨text, closed, spelled⟩ :=
        spells_compactMembers members (spells_member name blank_nil (spells_compactChars value))
      simp only [List.nil_append, List.append_assoc, List.cons_append] at closed
      rw [compactChars, closed]
      exact .object blank_nil spelled

/-- The items after a first one close the list that it opens. -/
theorem spells_compactItems : ∀ (items : List Json) {item : Node} {front : List Char},
    Spells item front → ∃ text, front ++ compactItems items = text ++ [']'] ∧
      SpellsItems (item :: itemNodes items) text
  | [], item, front, first =>
      ⟨front ++ [], by rw [List.append_nil]; rfl, .last first blank_nil⟩
  | next :: items, item, front, first => by
      obtain ⟨text, closed, spelled⟩ := spells_compactItems items (spells_compactChars next)
      exact ⟨_, by rw [compactItems, closed]; simp, .more first blank_nil blank_nil spelled⟩

theorem spells_compactMembers : ∀ (members : List (String × Json)) {member : Member}
    {front : List Char}, SpellsMember member front →
      ∃ text, front ++ compactMembers members = text ++ ['\x7d'] ∧
        SpellsMembers (member :: memberNodes members) text
  | [], member, front, first =>
      ⟨front ++ [], by rw [List.append_nil]; rfl, .last first blank_nil⟩
  | (name, value) :: members, member, front, first => by
      obtain ⟨text, closed, spelled⟩ :=
        spells_compactMembers members (spells_member name blank_nil (spells_compactChars value))
      refine ⟨_, ?_, .more first blank_nil blank_nil spelled⟩
      simp only [compactMembers, List.nil_append, List.append_assoc, List.cons_append] at closed ⊢
      rw [closed]

end

mutual

theorem spells_prettyChars : ∀ (value : Json) (level : Nat),
    Spells value.node (prettyChars level value)
  | .null, _ => .null
  | .bool value, _ => spells_boolChars value
  | .number value, _ => .number (spells_numeral value)
  | .string text, _ => .string (spells_quoted text)
  | .array [], _ => .noItems blank_nil
  | .array (item :: items), level => by
      obtain ⟨text, closed, spelled⟩ :=
        spells_prettyItems items level (spells_prettyChars item (level + 1))
      rw [prettyChars, closed]
      exact .array (blank_lineBreak _) spelled
  | .object [], _ => .noMembers blank_nil
  | .object ((name, value) :: members), level => by
      obtain ⟨text, closed, spelled⟩ := spells_prettyMembers members level
        (spells_member name blank_gap (spells_prettyChars value (level + 1)))
      simp only [List.nil_append, List.append_assoc, List.cons_append] at closed
      rw [prettyChars, closed]
      exact .object (blank_lineBreak _) spelled

theorem spells_prettyItems : ∀ (items : List Json) (level : Nat) {item : Node}
    {front : List Char}, Spells item front →
      ∃ text, front ++ prettyItems level items = text ++ [']'] ∧
        SpellsItems (item :: itemNodes items) text
  | [], level, item, front, first =>
      ⟨_, (List.append_assoc front (lineBreak level) [']']).symm, .last first (blank_lineBreak _)⟩
  | next :: items, level, item, front, first => by
      obtain ⟨text, closed, spelled⟩ :=
        spells_prettyItems items level (spells_prettyChars next (level + 1))
      exact ⟨_, by rw [prettyItems, closed]; simp,
        .more first blank_nil (blank_lineBreak (level + 1)) spelled⟩

theorem spells_prettyMembers : ∀ (members : List (String × Json)) (level : Nat) {member : Member}
    {front : List Char}, SpellsMember member front →
      ∃ text, front ++ prettyMembers level members = text ++ ['\x7d'] ∧
        SpellsMembers (member :: memberNodes members) text
  | [], level, member, front, first =>
      ⟨_, (List.append_assoc front (lineBreak level) ['\x7d']).symm,
        .last first (blank_lineBreak _)⟩
  | (name, value) :: members, level, member, front, first => by
      obtain ⟨text, closed, spelled⟩ := spells_prettyMembers members level
        (spells_member name blank_gap (spells_prettyChars value (level + 1)))
      refine ⟨_, ?_, .more first blank_nil (blank_lineBreak (level + 1)) spelled⟩
      simp only [prettyMembers, List.nil_append, List.append_assoc, List.cons_append] at closed ⊢
      rw [closed]

end

theorem SpellsText.of_chars {node : Node} {text : List Char} (spelled : Spells node text) :
    SpellsText node (String.ofList text) :=
  .value blank_nil spelled blank_nil (by simp)

theorem spells_compact (value : Json) : SpellsText value.node value.compact :=
  .of_chars (spells_compactChars value)

theorem spells_pretty (value : Json) : SpellsText value.node value.pretty :=
  .of_chars (spells_prettyChars value 0)

end values

end Json

end Bootstrap
