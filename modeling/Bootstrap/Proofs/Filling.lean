import Bootstrap.Command
import Mathlib.Data.List.Infix
import Mathlib.Data.List.Nodup

/-!
Filling in placeholders all at once, beside filling them in one name after the other. The two agree
for every word as long as no earlier value can help to spell a later placeholder, and for two names
this is what it takes.
-/

namespace Bootstrap

namespace Text

theorem replaceFrom_skip (pattern value front rest : List Char) :
    replaceFrom pattern value front.length (front ++ rest) = replaceFrom pattern value 0 rest := by
  induction front with
  | nil => rfl
  | cons character front ih => exact ih

theorem replaceFrom_pattern {pattern : List Char} (nonempty : pattern ≠ [])
    (value rest : List Char) :
    replaceFrom pattern value 0 (pattern ++ rest) = value ++ replaceFrom pattern value 0 rest := by
  obtain ⟨first, others, rfl⟩ := List.exists_cons_of_ne_nil nonempty
  have starts : (first :: others).isPrefixOf (first :: (others ++ rest)) = true :=
    List.isPrefixOf_iff_prefix.mpr ⟨rest, rfl⟩
  rw [List.cons_append, replaceFrom, if_pos starts]
  exact congrArg (value ++ ·) (replaceFrom_skip (first :: others) value others rest)

theorem replaceFrom_letter {pattern : List Char} {character : Char} {rest : List Char}
    (absent : ¬ pattern <+: character :: rest) (value : List Char) :
    replaceFrom pattern value 0 (character :: rest) =
      character :: replaceFrom pattern value 0 rest := by
  rw [replaceFrom, if_neg]
  exact mt List.isPrefixOf_iff_prefix.mp absent

theorem replaceFrom_append {pattern front rest : List Char} (value : List Char)
    (absent : ∀ before after, front = before ++ after → after ≠ [] → ¬ pattern <+: after ++ rest) :
    replaceFrom pattern value 0 (front ++ rest) = front ++ replaceFrom pattern value 0 rest := by
  induction front with
  | nil => rfl
  | cons character front ih =>
      have here : ¬ pattern <+: character :: (front ++ rest) :=
        absent [] (character :: front) rfl (List.cons_ne_nil _ _)
      rw [List.cons_append, replaceFrom_letter here, List.cons_append]
      refine congrArg (character :: ·) (ih fun before after same nonempty => ?_)
      exact absent (character :: before) after (congrArg (character :: ·) same) nonempty

theorem scan {pattern : List Char} (nonempty : pattern ≠ []) {motive : List Char → Prop}
    (done : motive []) (found : ∀ rest, motive rest → motive (pattern ++ rest))
    (letter : ∀ character rest, ¬ pattern <+: character :: rest → motive rest →
      motive (character :: rest)) (text : List Char) : motive text := by
  induction size : text.length using Nat.strongRecOn generalizing text with
  | ind size ih =>
      by_cases starts : pattern <+: text
      · obtain ⟨rest, rfl⟩ := starts
        have positive := List.length_pos_of_ne_nil nonempty
        rw [List.length_append] at size
        exact found rest (ih rest.length (by omega) rest rfl)
      · cases text with
        | nil => exact done
        | cons character rest =>
            rw [List.length_cons] at size
            exact letter character rest starts (ih rest.length (by omega) rest rfl)

theorem length_replaceFrom {pattern : List Char} (nonempty : pattern ≠ []) (value text : List Char) :
    ∃ count, (replaceFrom pattern value 0 text).length + count * pattern.length =
      text.length + count * value.length := by
  induction text using scan nonempty with
  | done => exact ⟨0, by simp [replaceFrom]⟩
  | found rest ih =>
      obtain ⟨count, counted⟩ := ih
      refine ⟨count + 1, ?_⟩
      rw [replaceFrom_pattern nonempty, List.length_append, List.length_append, Nat.add_mul,
        Nat.add_mul]
      omega
  | letter character rest absent ih =>
      obtain ⟨count, counted⟩ := ih
      refine ⟨count, ?_⟩
      rw [replaceFrom_letter absent, List.length_cons, List.length_cons]
      omega

theorem replaceFrom_ne {pattern value text : List Char} (nonempty : pattern ≠ [])
    (different : value ≠ pattern) (occurs : pattern <:+: text) :
    replaceFrom pattern value 0 text ≠ text := by
  induction text with
  | nil => exact absurd (List.infix_nil.mp occurs) nonempty
  | cons character rest ih =>
      by_cases starts : pattern <+: character :: rest
      · obtain ⟨others, same⟩ := starts
        rw [← same, replaceFrom_pattern nonempty]
        intro equal
        obtain ⟨count, counted⟩ := length_replaceFrom nonempty value others
        have lengths := congrArg List.length equal
        rw [List.length_append, List.length_append] at lengths
        have scaled : (count + 1) * value.length = (count + 1) * pattern.length := by
          rw [Nat.add_mul, Nat.add_mul]
          omega
        have long := Nat.eq_of_mul_eq_mul_left (Nat.succ_pos count) scaled
        exact different (List.append_inj_left equal long)
      · rw [replaceFrom_letter starts]
        intro equal
        have later : pattern <:+: rest := (List.infix_cons_iff.mp occurs).resolve_left starts
        exact ih later (List.cons.inj equal).2

theorem replaceFrom_self {pattern : List Char} (nonempty : pattern ≠ []) (text : List Char) :
    replaceFrom pattern pattern 0 text = text := by
  induction text using scan nonempty with
  | done => rfl
  | found rest ih => rw [replaceFrom_pattern nonempty, ih]
  | letter character rest absent ih => rw [replaceFrom_letter absent, ih]

end Text

namespace Command

def mark (name : String) : List Char :=
  (placeholder name).toList

/-- Names without braces: their placeholders end at the first closing brace and cannot overlap. -/
def IsPlain (name : String) : Prop :=
  '\x7b' ∉ name.toList ∧ '\x7d' ∉ name.toList

/-- The words with all their placeholders filled in at once: what comes from a value is not looked
at again, and what begins no placeholder stays. -/
inductive Filled (values : List (String × String)) : List Char → List Char → Prop
  | done : Filled values [] []
  | value {entry rest text} : entry ∈ values → Filled values rest text →
      Filled values (mark entry.1 ++ rest) (entry.2.toList ++ text)
  | letter {character rest text} : (∀ entry ∈ values, ¬ mark entry.1 <+: character :: rest) →
      Filled values rest text → Filled values (character :: rest) (character :: text)

theorem mark_eq (name : String) : mark name = '\x7b' :: (name.toList ++ ['\x7d']) := by
  simp [mark, placeholder]

theorem mark_ne_nil (name : String) : mark name ≠ [] := by
  rw [mark_eq]
  exact List.cons_ne_nil _ _

theorem mark_prefix_iff (name : String) (text : List Char) :
    mark name <+: text ↔ ∃ rest, text = '\x7b' :: (name.toList ++ '\x7d' :: rest) := by
  rw [mark_eq]
  constructor
  · rintro ⟨rest, rfl⟩
    exact ⟨rest, by simp⟩
  · rintro ⟨rest, rfl⟩
    exact ⟨rest, by simp⟩

theorem IsPlain.takeWhile {name : String} (plain : IsPlain name) (rest : List Char) :
    (name.toList ++ '\x7d' :: rest).takeWhile (· ≠ '\x7d') = name.toList := by
  have through : ∀ character ∈ name.toList, decide (character ≠ '\x7d') = true := by
    intro character member
    refine decide_eq_true ?_
    rintro rfl
    exact plain.2 member
  rw [List.takeWhile_append_of_pos through, List.takeWhile_cons_of_neg (by simp), List.append_nil]

theorem IsPlain.eq_of_starts {name other : String} (plain : IsPlain name) (otherPlain : IsPlain other)
    {text : List Char} (starts : mark name <+: text) (otherStarts : mark other <+: text) :
    name = other := by
  obtain ⟨rest, rfl⟩ := (mark_prefix_iff name text).mp starts
  obtain ⟨otherRest, same⟩ := (mark_prefix_iff other _).mp otherStarts
  have names := congrArg (List.takeWhile (· ≠ '\x7d')) (List.cons.inj same).2
  rw [plain.takeWhile, otherPlain.takeWhile] at names
  exact String.toList_inj.mp names

theorem mark_prefix_head {name : String} {character : Char} {rest : List Char}
    (starts : mark name <+: character :: rest) : character = '\x7b' := by
  obtain ⟨tail, same⟩ := (mark_prefix_iff name _).mp starts
  exact (List.cons.inj same).1

variable {values : List (String × String)} {entry : String × String} {name : String}
  {front rest text : List Char}

theorem Filled.of_letter {character : Char} (filled : Filled values (character :: rest) text)
    (absent : ∀ entry ∈ values, ¬ mark entry.1 <+: character :: rest) :
    ∃ tail, text = character :: tail ∧ Filled values rest tail := by
  generalize whole : character :: rest = word at filled
  cases filled with
  | done => cases whole
  | @value entry _ _ member filled =>
      refine absurd ?_ (absent entry member)
      rw [whole]
      exact List.prefix_append _ _
  | @letter _ _ tail _ filled =>
      obtain ⟨rfl, rfl⟩ := List.cons.inj whole
      exact ⟨tail, rfl, filled⟩

theorem Filled.of_front (absent : '\x7b' ∉ front) (filled : Filled values (front ++ rest) text) :
    ∃ tail, text = front ++ tail ∧ Filled values rest tail := by
  induction front generalizing text with
  | nil => exact ⟨text, rfl, filled⟩
  | cons character front ih =>
      obtain ⟨different, others⟩ := not_or.mp (List.mem_cons.not.mp absent)
      obtain ⟨middle, rfl, later⟩ := filled.of_letter fun entry _ starts =>
        different (mark_prefix_head starts).symm
      obtain ⟨tail, rfl, last⟩ := ih others later
      exact ⟨tail, rfl, last⟩

theorem Filled.of_unknown (plain : IsPlain name) (known : ∀ entry ∈ values, IsPlain entry.1)
    (unknown : ∀ entry ∈ values, entry.1 ≠ name) (filled : Filled values (mark name ++ rest) text) :
    ∃ tail, text = mark name ++ tail ∧ Filled values rest tail := by
  have body : '\x7b' ∉ name.toList ++ ['\x7d'] := by
    simpa using plain.1
  have own : mark name <+: mark name ++ rest := List.prefix_append _ _
  rw [mark_eq] at filled own ⊢
  obtain ⟨middle, rfl, later⟩ := filled.of_letter fun entry member starts =>
    unknown entry member ((known entry member).eq_of_starts plain starts (mark_eq name ▸ own))
  obtain ⟨tail, rfl, last⟩ := later.of_front body
  exact ⟨tail, rfl, last⟩

theorem Filled.of_mark (known : ∀ entry ∈ values, IsPlain entry.1)
    (distinct : (values.map Prod.fst).Nodup) (member : entry ∈ values)
    (filled : Filled values (mark entry.1 ++ rest) text) :
    ∃ tail, text = entry.2.toList ++ tail ∧ Filled values rest tail := by
  generalize whole : mark entry.1 ++ rest = word at filled
  have starts : mark entry.1 <+: word := whole ▸ List.prefix_append _ _
  cases filled with
  | done => exact absurd (List.prefix_nil.mp starts) (mark_ne_nil _)
  | @value other _ tail otherMember filled =>
      have same : entry.1 = other.1 :=
        (known entry member).eq_of_starts (known other otherMember) starts (List.prefix_append _ _)
      obtain rfl : entry = other :=
        List.inj_on_of_nodup_map distinct member otherMember same
      obtain rfl := List.append_cancel_left whole
      exact ⟨tail, rfl, filled⟩
  | letter absent _ => exact absurd starts (absent entry member)

theorem Filled.unique (known : ∀ entry ∈ values, IsPlain entry.1)
    (distinct : (values.map Prod.fst).Nodup) {word other : List Char}
    (filled : Filled values word text) (again : Filled values word other) : text = other := by
  induction filled generalizing other with
  | done =>
      generalize whole : [] = word at again
      cases again with
      | done => rfl
      | @value entry rest _ _ _ =>
          exact absurd (List.append_eq_nil_iff.mp whole.symm).1 (mark_ne_nil entry.1)
      | letter _ _ => cases whole
  | value member _ ih =>
      obtain ⟨tail, rfl, later⟩ := again.of_mark known distinct member
      rw [ih later]
  | letter absent _ ih =>
      obtain ⟨tail, rfl, later⟩ := again.of_letter absent
      rw [ih later]

theorem exists_filled (values : List (String × String)) (word : List Char) :
    ∃ text, Filled values word text := by
  induction size : word.length using Nat.strongRecOn generalizing word with
  | ind size ih =>
      by_cases starts : ∃ entry ∈ values, mark entry.1 <+: word
      · obtain ⟨entry, member, rest, rfl⟩ := starts
        have positive := List.length_pos_of_ne_nil (mark_ne_nil entry.1)
        rw [List.length_append] at size
        obtain ⟨text, filled⟩ := ih rest.length (by omega) rest rfl
        exact ⟨_, .value member filled⟩
      · cases word with
        | nil => exact ⟨[], .done⟩
        | cons character rest =>
            rw [List.length_cons] at size
            obtain ⟨text, filled⟩ := ih rest.length (by omega) rest rfl
            exact ⟨_, .letter (fun entry member begins => starts ⟨entry, member, begins⟩) filled⟩

theorem Filled.perm {others : List (String × String)} (same : ∀ entry, entry ∈ values ↔ entry ∈ others)
    {word : List Char} (filled : Filled values word text) : Filled others word text := by
  induction filled with
  | done => exact .done
  | value member _ ih => exact .value ((same _).mp member) ih
  | letter absent _ ih => exact .letter (fun entry member => absent entry ((same entry).mpr member)) ih

/-- Some text around the value spells the pattern, and part of it by means of the value. -/
def Meets (value pattern : List Char) : Prop :=
  ∃ before after first last, before ++ value ++ after = first ++ pattern ++ last ∧
    first.length < before.length + value.length ∧ before.length < first.length + pattern.length

theorem Filled.prefix_of_begun {pattern : List Char}
    (apart : ∀ entry ∈ values, ¬ Meets entry.2.toList pattern) (filled : Filled values rest text)
    {begun left : List Char} (started : begun ≠ []) (whole : pattern = begun ++ left)
    (starts : left <+: text) : left <+: rest := by
  induction filled generalizing begun left with
  | done => exact starts
  | @value entry rest text member _ _ =>
      cases left with
      | nil => exact List.nil_prefix
      | cons character left =>
          refine absurd ?_ (apart entry member)
          obtain ⟨last, same⟩ := starts
          have positive := List.length_pos_of_ne_nil started
          refine ⟨begun, text, [], last, ?_, ?_, ?_⟩
          · rw [List.append_assoc, ← same, whole, List.nil_append, List.append_assoc]
          · rw [List.length_nil]
            omega
          · rw [whole, List.length_append, List.length_cons, List.length_nil]
            omega
  | @letter character rest text _ _ ih =>
      cases left with
      | nil => exact List.nil_prefix
      | cons next left =>
          obtain ⟨rfl, continued⟩ := List.cons_prefix_cons.mp starts
          have later : pattern = (begun ++ [next]) ++ left := by
            rw [whole, List.append_assoc, List.singleton_append]
          exact List.cons_prefix_cons.mpr ⟨rfl, ih (by simp) later continued⟩

theorem replaceFrom_value {value pattern : List Char} (apart : ¬ Meets value pattern)
    (nonempty : pattern ≠ []) (new text : List Char) :
    Text.replaceFrom pattern new 0 (value ++ text) = value ++ Text.replaceFrom pattern new 0 text := by
  refine Text.replaceFrom_append new fun before after same later starts => apart ?_
  obtain ⟨last, spelled⟩ := starts
  have positive := List.length_pos_of_ne_nil later
  have patternPositive := List.length_pos_of_ne_nil nonempty
  refine ⟨[], text, before, last, ?_, ?_, ?_⟩
  · rw [List.nil_append, same, List.append_assoc, ← spelled, List.append_assoc]
  · rw [same, List.length_nil, List.length_append]
    omega
  · rw [List.length_nil]
    omega

theorem Filled.pass (known : ∀ entry ∈ values, IsPlain entry.1)
    (distinct : (values.map Prod.fst).Nodup) (plain : IsPlain entry.1)
    (unknown : ∀ other ∈ values, other.1 ≠ entry.1)
    (apart : ∀ other ∈ values, ¬ Meets other.2.toList (mark entry.1)) {word : List Char}
    (filled : Filled values word text) :
    Filled (values ++ [entry]) word
      (Text.replaceFrom (mark entry.1) entry.2.toList 0 text) := by
  obtain ⟨final, whole⟩ := exists_filled (values ++ [entry]) word
  suffices same : Text.replaceFrom (mark entry.1) entry.2.toList 0 text = final from same ▸ whole
  induction whole generalizing text with
  | done =>
      obtain rfl := filled.unique known distinct .done
      rfl
  | @value other rest _ member _ ih =>
      rcases List.mem_append.mp member with old | new
      · obtain ⟨tail, rfl, later⟩ := filled.of_mark known distinct old
        rw [replaceFrom_value (apart other old) (mark_ne_nil _), ih later]
      · obtain rfl := List.mem_singleton.mp new
        obtain ⟨tail, rfl, later⟩ := filled.of_unknown plain known unknown
        rw [Text.replaceFrom_pattern (mark_ne_nil _), ih later]
  | @letter character rest _ absent _ ih =>
      obtain ⟨tail, rfl, later⟩ := filled.of_letter fun other member =>
        absent other (List.mem_append_left _ member)
      have still : ¬ mark entry.1 <+: character :: tail := by
        intro starts
        refine absent entry (by simp) ?_
        rw [mark_eq] at starts ⊢
        obtain ⟨rfl, continued⟩ := List.cons_prefix_cons.mp starts
        refine List.cons_prefix_cons.mpr ⟨rfl, ?_⟩
        exact later.prefix_of_begun apart (List.cons_ne_nil _ []) (mark_eq entry.1) continued
      rw [Text.replaceFrom_letter still, ih later]

theorem Filled.pass_self (known : ∀ entry ∈ values, IsPlain entry.1)
    (distinct : (values.map Prod.fst).Nodup) (plain : IsPlain entry.1)
    (unknown : ∀ other ∈ values, other.1 ≠ entry.1) (own : entry.2 = placeholder entry.1)
    {word : List Char} (filled : Filled values word text) : Filled (values ++ [entry]) word text := by
  obtain ⟨final, whole⟩ := exists_filled (values ++ [entry]) word
  suffices same : text = final from same ▸ whole
  induction whole generalizing text with
  | done => exact filled.unique known distinct .done
  | @value other rest _ member _ ih =>
      rcases List.mem_append.mp member with old | new
      · obtain ⟨tail, rfl, later⟩ := filled.of_mark known distinct old
        rw [ih later]
      · obtain rfl := List.mem_singleton.mp new
        obtain ⟨tail, rfl, later⟩ := filled.of_unknown plain known unknown
        rw [ih later, own, mark]
  | letter absent _ ih =>
      obtain ⟨tail, rfl, later⟩ := filled.of_letter fun other member =>
        absent other (List.mem_append_left _ member)
      rw [ih later]

theorem filled_nil (word : List Char) : Filled [] word word := by
  induction word with
  | nil => exact .done
  | cons character rest ih => exact .letter (by simp) ih

theorem filled_front (absent : '\x7b' ∉ front) (filled : Filled values rest text) :
    Filled values (front ++ rest) (front ++ text) := by
  induction front with
  | nil => exact filled
  | cons character front ih =>
      obtain ⟨different, others⟩ := not_or.mp (List.mem_cons.not.mp absent)
      exact .letter (fun entry _ starts => different (mark_prefix_head starts).symm) (ih others)

/-- No earlier value helps to spell the placeholder of a later name, unless that placeholder stands
for itself. -/
def Apart (values : List (String × String)) : Prop :=
  values.Pairwise fun earlier later =>
    later.2 = placeholder later.1 ∨ ¬ Meets earlier.2.toList (mark later.1)

theorem fillInside_concat (word : String) (values : List (String × String))
    (entry : String × String) : (fillInside word (values ++ [entry])).toList =
      Text.replaceFrom (mark entry.1) entry.2.toList 0 (fillInside word values).toList := by
  simp [fillInside, Text.replace, mark]

theorem filled_fillInside (known : ∀ entry ∈ values, IsPlain entry.1)
    (distinct : (values.map Prod.fst).Nodup) (apart : Apart values) (word : String) :
    Filled values word.toList (fillInside word values).toList := by
  induction values using List.reverseRecOn with
  | nil => exact filled_nil _
  | append_singleton values entry ih =>
      obtain ⟨plain, others⟩ : IsPlain entry.1 ∧ ∀ other ∈ values, IsPlain other.1 :=
        ⟨known entry (by simp), fun other member => known other (by simp [member])⟩
      rw [List.map_append, List.nodup_append] at distinct
      obtain ⟨earlier, _, fresh⟩ := List.pairwise_append.mp apart
      have unknown : ∀ other ∈ values, other.1 ≠ entry.1 := fun other member =>
        distinct.2.2 _ (List.mem_map_of_mem member) _ (by simp)
      have filled := ih others distinct.1 earlier
      rw [fillInside_concat]
      by_cases own : entry.2 = placeholder entry.1
      · rw [own, ← mark, Text.replaceFrom_self (mark_ne_nil _)]
        exact filled.pass_self others distinct.1 plain unknown own
      · refine filled.pass others distinct.1 plain unknown fun other member => ?_
        exact (fresh other member entry (by simp)).resolve_left own

theorem fillWord_cases (values : List (String × String)) (word : String) :
    (∃ entry ∈ values, word = placeholder entry.1 ∧ fillWord values word = entry.2) ∨
      (∀ entry ∈ values, word ≠ placeholder entry.1) ∧
        fillWord values word = fillInside word values := by
  unfold fillWord
  cases found : values.find? fun value => word = placeholder value.1 with
  | some entry =>
      left
      exact ⟨entry, List.mem_of_find?_eq_some found, by simpa using List.find?_some found, rfl⟩
  | none => exact .inr ⟨by simpa using List.find?_eq_none.mp found, rfl⟩

theorem filled_fillWord (known : ∀ entry ∈ values, IsPlain entry.1)
    (distinct : (values.map Prod.fst).Nodup) (apart : Apart values) (word : String) :
    Filled values word.toList (fillWord values word).toList := by
  rcases fillWord_cases values word with ⟨entry, member, rfl, filled⟩ | ⟨_, filled⟩
  · rw [filled]
    simpa [mark] using Filled.value member Filled.done
  · rw [filled]
    exact filled_fillInside known distinct apart word

theorem not_meets {value : List Char} (opening : '\x7b' ∉ value) (closing : '\x7d' ∉ value)
    (outside : ¬ value <:+: name.toList) : ¬ Meets value (mark name) := by
  rintro ⟨before, after, first, last, same, overlap, overlapped⟩
  rw [List.append_assoc, List.append_assoc, List.append_eq_append_iff] at same
  rcases same with ⟨inner, rfl, same⟩ | ⟨begun, rfl, same⟩
  · -- The placeholder starts inside the value.
    rw [List.append_eq_append_iff] at same
    rcases same with ⟨more, rfl, _⟩ | ⟨rest, rfl, same⟩
    · simp only [List.length_append] at overlap
      omega
    · cases rest with
      | nil => simp at overlap
      | cons character rest =>
          rw [mark_eq] at same
          obtain ⟨rfl, _⟩ := List.cons.inj same
          exact opening (by simp)
  · rw [List.append_eq_append_iff] at same
    rcases same with ⟨more, rfl, _⟩ | ⟨left, whole, same⟩
    · simp only [List.length_append] at overlapped
      omega
    · rw [mark_eq] at whole
      cases begun with
      | nil =>
          obtain rfl : left = '\x7b' :: (name.toList ++ ['\x7d']) := whole.symm
          cases value with
          | nil => exact outside (List.nil_infix)
          | cons character value =>
              obtain ⟨rfl, _⟩ := List.cons.inj same
              exact opening List.mem_cons_self
      | cons brace begun =>
          -- The value is what stands next in the name, or goes on to its closing brace.
          have rest : name.toList ++ ['\x7d'] = begun ++ left := (List.cons.inj whole).2
          rcases List.eq_nil_or_concat left with rfl | ⟨front, final, rfl⟩
          · have long := congrArg List.length rest
            simp only [mark_eq, List.length_append, List.length_cons, List.length_nil] at overlapped long
            omega
          · rw [List.concat_eq_append, ← List.append_assoc] at rest
            obtain ⟨spelled, closes⟩ := List.append_inj' rest rfl
            obtain rfl := (List.cons.inj closes).1
            rw [List.concat_eq_append, List.append_assoc, List.append_eq_append_iff] at same
            rcases same with ⟨more, rfl, _⟩ | ⟨more, rfl, same⟩
            · exact outside ⟨begun, more, by rw [spelled, List.append_assoc]⟩
            · cases more with
              | nil => exact outside ⟨begun, [], by rw [spelled, List.append_nil, List.append_nil]⟩
              | cons character more =>
                  obtain ⟨rfl, _⟩ := List.cons.inj same
                  exact closing (by simp)

theorem Meets.trimmed {value : List Char} (meets : Meets value (mark name)) :
    ∃ before after, mark name <:+: before ++ value ++ after ∧ before <+: mark name ∧
      before.length < (mark name).length ∧ after <:+ mark name ∧
      after.length < (mark name).length := by
  obtain ⟨before, after, first, last, same, overlap, overlapped⟩ := meets
  obtain ⟨front, skipped, cut, frontPrefix, short, reached⟩ : ∃ front skipped,
      (front ++ value) ++ after = (skipped ++ mark name) ++ last ∧ front <+: mark name ∧
        front.length < (mark name).length ∧ skipped.length < front.length + value.length := by
    rw [List.append_assoc, List.append_assoc, List.append_eq_append_iff] at same
    rcases same with ⟨inner, rfl, same⟩ | ⟨begun, rfl, same⟩
    · refine ⟨[], inner, ?_, List.nil_prefix, List.length_pos_of_ne_nil (mark_ne_nil _), ?_⟩
      · rw [List.nil_append, same, List.append_assoc]
      · rw [List.length_append] at overlap
        rw [List.length_nil]
        omega
    · rw [List.length_append] at overlap overlapped
      refine ⟨begun, [], ?_, ?_, by omega, ?_⟩
      · rw [List.append_assoc, ← same, List.nil_append]
      · exact List.prefix_of_prefix_length_le ⟨value ++ after, rfl⟩
          (same ▸ List.prefix_append _ _) (by omega)
      · rw [List.length_nil]
        omega
  rw [List.append_eq_append_iff] at cut
  rcases cut with ⟨ending, whole, rfl⟩ | ⟨more, whole, _⟩
  · have lengths := congrArg List.length whole
    simp only [List.length_append] at lengths
    refine ⟨front, ending, ⟨skipped, [], ?_⟩, frontPrefix, short, ?_, by omega⟩
    · rw [List.append_nil, whole]
    · exact List.suffix_of_suffix_length_le ⟨front ++ value, whole.symm⟩
        (List.suffix_append skipped _) (by omega)
  · refine ⟨front, [], ⟨skipped, more, ?_⟩, frontPrefix, short, List.nil_suffix, ?_⟩
    · rw [whole, List.append_nil]
    · exact List.length_pos_of_ne_nil (mark_ne_nil _)

/-- A placeholder that has begun is no other one: the next opening brace comes too early. -/
theorem not_mark_starts {begun : List Char} (unclosed : '\x7d' ∉ begun) {other : String}
    (plain : IsPlain other) (rest : List Char) :
    ¬ mark other <+: '\x7b' :: (begun ++ '\x7b' :: rest) := by
  intro starts
  obtain ⟨tail, same⟩ := (mark_prefix_iff other _).mp starts
  have inside := (List.cons.inj same).2
  rw [List.append_eq_append_iff] at inside
  rcases inside with ⟨more, whole, continued⟩ | ⟨more, rfl, continued⟩
  · cases more with
    | nil => exact absurd (List.cons.inj continued).1 (by decide)
    | cons character more =>
        obtain ⟨rfl, _⟩ := List.cons.inj continued
        exact plain.1 (by simp [whole])
  · cases more with
    | nil => exact absurd (List.cons.inj continued).1 (by decide)
    | cons character more =>
        obtain ⟨rfl, _⟩ := List.cons.inj continued
        exact unclosed (by simp)

theorem filled_begun (known : ∀ entry ∈ values, IsPlain entry.1) (plain : IsPlain name)
    (front_starts : front <+: mark name) (short : front.length < (mark name).length) {other : String}
    (filled : Filled values (mark other ++ rest) text) :
    Filled values (front ++ (mark other ++ rest)) (front ++ text) := by
  cases front with
  | nil => exact filled
  | cons brace begun =>
      obtain ⟨ending, whole⟩ := front_starts
      rw [mark_eq] at whole
      obtain rfl := (List.cons.inj whole).1
      have within : begun ++ ending = name.toList ++ ['\x7d'] := (List.cons.inj whole).2
      have front_name : begun <+: name.toList := by
        rcases List.eq_nil_or_concat ending with rfl | ⟨middle, final, rfl⟩
        · have lengths := congrArg List.length within
          simp only [mark_eq, List.length_append, List.length_cons, List.length_nil] at short lengths
          omega
        · rw [List.concat_eq_append, ← List.append_assoc] at within
          exact ⟨middle, (List.append_inj' within rfl).1⟩
      have opening : '\x7b' ∉ begun := fun member => plain.1 (front_name.subset member)
      have closing : '\x7d' ∉ begun := fun member => plain.2 (front_name.subset member)
      refine .letter (fun entry member => ?_) (filled_front opening filled)
      rw [mark_eq other, List.cons_append]
      exact not_mark_starts closing (known entry member) _

theorem exists_misfilled {first second : String × String} (plain : IsPlain first.1)
    (otherPlain : IsPlain second.1) (different : first.1 ≠ second.1)
    (changes : second.2 ≠ placeholder second.1)
    (meets : Meets first.2.toList (mark second.1)) :
    ∃ word, ¬ Filled [first, second] word.toList (fillWord [first, second] word).toList := by
  obtain ⟨before, after, occurs, before_starts, short, after_suffix, afterShort⟩ := meets.trimmed
  have known : ∀ entry ∈ [first, second], IsPlain entry.1 := by simp [plain, otherPlain]
  have distinct : ([first, second].map Prod.fst).Nodup := by simp [different]
  have tail : '\x7b' ∉ after := by
    rw [mark_eq] at after_suffix afterShort
    rcases List.suffix_cons_iff.mp after_suffix with rfl | inside
    · exact absurd afterShort (Nat.lt_irrefl _)
    · intro member
      exact otherPlain.1 (by simpa using inside.subset member)
  -- A letter in front keeps the word from being one placeholder.
  let word := 'x' :: (before ++ (mark first.1 ++ after))
  let wanted := 'x' :: (before ++ (first.2.toList ++ after))
  have proper (values : List (String × String)) (member : first ∈ values)
      (plains : ∀ entry ∈ values, IsPlain entry.1) : Filled values word wanted := by
    have ends : Filled values after after := by
      have copied : Filled values (after ++ []) (after ++ []) := filled_front tail .done
      simpa using copied
    refine .letter (fun entry _ starts => absurd (mark_prefix_head starts) (by decide)) ?_
    exact filled_begun plains otherPlain before_starts short (.value member ends)
  refine ⟨String.ofList word, ?_⟩
  rw [String.toList_ofList]
  intro filled
  have same := filled.unique known distinct (proper _ (by simp) known)
  have first_pass : (fillInside (String.ofList word) [first]).toList = wanted := by
    have passed : Filled ([] ++ [first]) word
        (Text.replaceFrom (mark first.1) first.2.toList 0 word) :=
      (filled_nil word).pass (by simp) (by simp) plain (by simp) (by simp)
    have one := passed.unique (by simp [plain]) (by simp) (proper [first] (by simp) (by simp [plain]))
    rw [← one, ← List.nil_append [first], fillInside_concat]
    simp [fillInside]
  rcases fillWord_cases [first, second] (String.ofList word) with ⟨entry, _, whole, _⟩ | ⟨_, loop⟩
  · have characters := congrArg String.toList whole
    rw [String.toList_ofList, ← mark, mark_eq] at characters
    exact absurd (List.cons.inj characters).1 (by decide)
  · rw [loop, ← List.singleton_append, fillInside_concat, first_pass] at same
    refine Text.replaceFrom_ne (mark_ne_nil _) ?_ ?_ same
    · exact fun equal => changes (String.toList_inj.mp equal)
    · refine occurs.trans ⟨['x'], [], ?_⟩
      simp [wanted]

theorem apart_of_plain
    (ordinary : ∀ entry ∈ values, IsPlain entry.2 ∧
      ∀ other ∈ values, ¬ entry.2.toList <:+: other.1.toList) : Apart values := by
  refine List.pairwise_of_forall_mem_list fun earlier member later laterMember => .inr ?_
  obtain ⟨plain, outside⟩ := ordinary earlier member
  exact not_meets plain.1 plain.2 (outside later laterMember)

/-- How words are filled in, for values whose names are distinct and have no braces. -/
structure Filling (values : List (String × String)) : Prop where
  unique : ∀ word, ∃! text, Filled values word text
  unordered : ∀ others, others.Perm values → ∀ word text,
    Filled others word text ↔ Filled values word text
  whole : ∀ entry ∈ values, fillWord values (placeholder entry.1) = entry.2
  atOnce : Apart values → ∀ word, Filled values word.toList (fillWord values word).toList
  /-- The words that are one placeholder need no rule of their own then. -/
  loop : Apart values → ∀ word, fillInside word values = fillWord values word
  reordered : ∀ others, others.Perm values → Apart values → Apart others → ∀ word,
    fillWord others word = fillWord values word
  ordinary : (∀ entry ∈ values, IsPlain entry.2 ∧
    ∀ other ∈ values, ¬ entry.2.toList <:+: other.1.toList) → Apart values
  exact : ∀ first second, values = [first, second] →
    ((∀ word, Filled values word.toList (fillWord values word).toList) ↔ Apart values)

theorem filling_of_plain (values : List (String × String))
    (distinct : (values.map Prod.fst).Nodup) (known : ∀ entry ∈ values, IsPlain entry.1) :
    Filling values where
  unique := by
    intro word
    obtain ⟨text, filled⟩ := exists_filled values word
    exact ⟨text, filled, fun other again => again.unique known distinct filled⟩
  unordered := by
    intro others permuted word text
    exact ⟨.perm fun _ => permuted.mem_iff, .perm fun _ => permuted.mem_iff.symm⟩
  whole := by
    intro entry member
    have marked : Filled values (mark entry.1) entry.2.toList := by
      simpa using Filled.value member Filled.done
    rcases fillWord_cases values (placeholder entry.1) with ⟨other, found, same, filled⟩ | ⟨none, _⟩
    · have again : Filled values (mark entry.1) other.2.toList := by
        rw [mark, same]
        simpa [mark] using Filled.value found Filled.done
      rw [filled]
      exact String.toList_inj.mp (again.unique known distinct marked)
    · exact absurd rfl (none entry member)
  atOnce := filled_fillWord known distinct
  loop := by
    intro apart word
    have looped := filled_fillInside known distinct apart word
    exact String.toList_inj.mp (looped.unique known distinct (filled_fillWord known distinct apart word))
  reordered := by
    intro others permuted apart otherApart word
    have others_known : ∀ entry ∈ others, IsPlain entry.1 := fun entry member =>
      known entry (permuted.mem_iff.mp member)
    have others_distinct : (others.map Prod.fst).Nodup := (permuted.map _).nodup_iff.mpr distinct
    have filled := filled_fillWord others_known others_distinct otherApart word
    have again := filled.perm fun _ => permuted.mem_iff
    exact String.toList_inj.mp
      (again.unique known distinct (filled_fillWord known distinct apart word))
  ordinary := apart_of_plain
  exact := by
    rintro first second rfl
    refine ⟨fun always => ?_, filled_fillWord known distinct⟩
    rw [Apart, List.pairwise_pair]
    by_contra neither
    obtain ⟨changes, meets⟩ := not_or.mp neither
    have different : first.1 ≠ second.1 := by simpa using distinct
    obtain ⟨word, wrong⟩ := exists_misfilled (known first (by simp)) (known second (by simp))
      different changes (not_not.mp meets)
    exact wrong (always word)

def samplePaths : List (String × String) :=
  [("source", "src/compiler"), ("output", "out.mod")]

theorem samplePaths_filling :
    (samplePaths.map Prod.fst).Nodup ∧ (∀ entry ∈ samplePaths, IsPlain entry.1) ∧
      Filling samplePaths ∧ Apart samplePaths ∧ Apart samplePaths.reverse ∧
      fillWord samplePaths "-o=\x7boutput\x7d" = "-o=out.mod" ∧
      Filled samplePaths "-o=\x7boutput\x7d".toList "-o=out.mod".toList ∧
      fillInside "\x7bsource\x7d" samplePaths = "src/compiler" ∧
      fillWord samplePaths.reverse "-o=\x7boutput\x7d" = "-o=out.mod" := by
  have distinct : (samplePaths.map Prod.fst).Nodup := by decide
  have plain : ∀ entry ∈ samplePaths, IsPlain entry.1 := by
    simp [samplePaths, IsPlain]
  have filling : Filling samplePaths := filling_of_plain samplePaths distinct plain
  have plainValues : ∀ entry ∈ samplePaths, IsPlain entry.2 := by
    simp [samplePaths, IsPlain]
  have outside : ∀ entry ∈ samplePaths, ∀ other ∈ samplePaths,
      ¬ entry.2.toList <:+: other.1.toList := by decide
  have ordinary : ∀ entry ∈ samplePaths, IsPlain entry.2 ∧
      ∀ other ∈ samplePaths, ¬ entry.2.toList <:+: other.1.toList := fun entry member =>
    ⟨plainValues entry member, outside entry member⟩
  have apart : Apart samplePaths := filling.ordinary ordinary
  have backwards : Apart samplePaths.reverse :=
    apart_of_plain (by simpa only [List.mem_reverse] using ordinary)
  have filled : fillWord samplePaths "-o=\x7boutput\x7d" = "-o=out.mod" := by decide +kernel
  have atOnce := filling.atOnce apart "-o=\x7boutput\x7d"
  rw [filled] at atOnce
  refine ⟨distinct, plain, filling, apart, backwards, filled, atOnce, ?_, ?_⟩
  · exact (filling.loop apart _).trans (filling.whole ("source", "src/compiler") (by decide))
  · exact (filling.reordered _ (List.reverse_perm _) apart backwards _).trans filled

/-- A path that spells the placeholder of a later name is looked at again, unless it is a word of its
own or its name comes last. -/
theorem value_looked_at_again :
    fillWord [("source", "\x7boutput\x7d"), ("output", "o.mod")] "-i=\x7bsource\x7d" = "-i=o.mod" ∧
      fillWord [("output", "o.mod"), ("source", "\x7boutput\x7d")] "-i=\x7bsource\x7d" =
        "-i=\x7boutput\x7d" ∧
      fillWord [("source", "\x7boutput\x7d"), ("output", "o.mod")] "\x7bsource\x7d" =
        "\x7boutput\x7d" ∧
      ¬ ∀ values : List (String × String), (values.map Prod.fst).Nodup →
        (∀ entry ∈ values, IsPlain entry.1) → ∀ word,
          Filled values word.toList (fillWord values word).toList := by
  have filled : fillWord [("source", "\x7boutput\x7d"), ("output", "o.mod")]
      "-i=\x7bsource\x7d" = "-i=o.mod" := by
    decide +kernel
  refine ⟨filled, by decide +kernel, by decide +kernel, fun always => ?_⟩
  have distinct : ([("source", "\x7boutput\x7d"), ("output", "o.mod")].map Prod.fst).Nodup := by
    decide
  have plain : ∀ entry ∈ [("source", "\x7boutput\x7d"), ("output", "o.mod")], IsPlain entry.1 := by
    simp [IsPlain]
  have member : ("source", "\x7boutput\x7d") ∈
      [("source", "\x7boutput\x7d"), ("output", "o.mod")] := by simp
  have ending := Filled.value member Filled.done
  have absent : '\x7b' ∉ "-i=".toList := by decide
  have wanted := filled_front absent ending
  have given := always _ distinct plain "-i=\x7bsource\x7d"
  rw [filled] at given
  have same := wanted.unique plain distinct given
  exact absurd same (by decide)

end Command

end Bootstrap
