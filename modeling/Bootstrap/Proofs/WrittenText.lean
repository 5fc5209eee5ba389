import Bootstrap.Text.Utf8

/-!
Reading UTF-8 undoes writing it, and reads nothing that has not been written so.
-/

namespace Bootstrap

namespace Utf8

theorem faultAfter_ne_char (expected : List (UInt8 × UInt8)) (bytes : Bytes) (seen : Nat)
    (value : Char) : faultAfter expected bytes seen ≠ .char value := by
  induction expected generalizing bytes seen with
  | nil => simp [faultAfter]
  | cons range expected ih =>
      cases bytes with
      | nil => simp [faultAfter]
      | cons byte rest =>
          rw [faultAfter]
          split
          · exact ih rest (seen + 1)
          · simp

theorem partAt_eq_char_iff (first : UInt8) (rest : Bytes) (value : Char) :
    partAt first rest = .char value ↔
      ∃ following, first :: rest = String.utf8EncodeChar value ++ following := by
  -- a character takes four bytes at most, so the window shows all of it
  have window : (first :: rest).take 4 = first :: rest.take 3 := rfl
  constructor
  · intro read
    unfold partAt at read
    split at read
    next found seen =>
      obtain rfl := Part.char.inj read
      have bytes := congrArg (fun bytes => bytes.data.toList)
        (ByteArray.eq_of_utf8DecodeChar?_eq_some seen)
      simp only [List.toList_data_toByteArray, ByteArray.data_append, Array.toList_append] at bytes
      rw [← window] at bytes
      have whole := List.take_append_drop 4 (first :: rest)
      rw [bytes, List.append_assoc] at whole
      exact ⟨_, whole.symm⟩
    next => exact absurd read (faultAfter_ne_char _ _ _ _)
  · rintro ⟨following, whole⟩
    have size : (String.utf8EncodeChar value).length ≤ 4 := by
      rw [String.length_utf8EncodeChar]
      exact value.utf8Size_le_four
    have shown : first :: rest.take 3 = String.utf8EncodeChar value ++
        following.take (4 - (String.utf8EncodeChar value).length) := by
      rw [← window, whole, List.take_append, List.take_of_length_le size]
    unfold partAt
    rw [shown, List.toByteArray_append, ByteArray.utf8DecodeChar?_utf8EncodeChar_append]

theorem partsFrom_skip (offset : Nat) {skip : Nat} {bytes : Bytes} (inside : skip ≤ bytes.length) :
    partsFrom offset skip bytes = partsFrom (offset + skip) 0 (bytes.drop skip) := by
  induction skip generalizing offset bytes with
  | zero => rfl
  | succ skip ih =>
      cases bytes with
      | nil => simp at inside
      | cons first rest =>
          rw [partsFrom, ih (offset + 1) (by simpa using inside), List.drop_succ_cons]
          congr 1
          omega

theorem partsFrom_char (offset : Nat) (value : Char) (following : Bytes) :
    partsFrom offset 0 (String.utf8EncodeChar value ++ following) =
      (offset, .char value) ::
        partsFrom (offset + (String.utf8EncodeChar value).length) 0 following := by
  obtain ⟨first, others, bytes⟩ :=
    List.exists_cons_of_ne_nil (String.utf8EncodeChar_ne_nil (c := value))
  have size : value.utf8Size = others.length + 1 := by
    rw [← String.length_utf8EncodeChar, bytes, List.length_cons]
  have read := (partAt_eq_char_iff first (others ++ following) value).mpr
    ⟨following, by rw [bytes, List.cons_append]⟩
  rw [bytes, List.cons_append, partsFrom, read]
  dsimp only
  rw [size, Nat.add_sub_cancel, partsFrom_skip _ (by simp), List.drop_left, List.length_cons]
  congr 2
  omega

theorem begins_of_read {offset : Nat} {first : UInt8} {rest : Bytes} {values : List Char}
    (read : charsOfParts (partsFrom offset 0 (first :: rest)) = .ok values) :
    ∃ value others following, values = value :: others ∧
      first :: rest = String.utf8EncodeChar value ++ following ∧
      charsOfParts (partsFrom (offset + (String.utf8EncodeChar value).length) 0 following) =
        .ok others := by
  cases part : partAt first rest with
  | char value =>
      obtain ⟨following, whole⟩ := (partAt_eq_char_iff first rest value).mp part
      rw [whole, partsFrom_char, charsOfParts] at read
      split at read
      next others later =>
        exact ⟨value, others, following, (Except.ok.inj read).symm, whole, later⟩
      next => cases read
  | illFormed length =>
      rw [partsFrom, part] at read
      cases read
  | cutOff =>
      rw [partsFrom, part] at read
      cases read

theorem charsOfParts_eq_ok_iff (offset : Nat) (bytes : Bytes) (values : List Char) :
    charsOfParts (partsFrom offset 0 bytes) = .ok values ↔
      bytes = values.flatMap String.utf8EncodeChar := by
  constructor
  · intro read
    induction values generalizing offset bytes with
    | nil =>
        cases bytes with
        | nil => rfl
        | cons first rest =>
            obtain ⟨_, _, _, values, _⟩ := begins_of_read read
            cases values
    | cons value values ih =>
        cases bytes with
        | nil => cases read
        | cons first rest =>
            obtain ⟨_, _, following, values, whole, later⟩ := begins_of_read read
            obtain ⟨rfl, rfl⟩ := List.cons.inj values
            rw [whole, List.flatMap_cons, ih _ following later]
  · rintro rfl
    induction values generalizing offset with
    | nil => rfl
    | cons value values ih =>
        rw [List.flatMap_cons, partsFrom_char, charsOfParts, ih]

/-- What can be read is what has been written. -/
theorem decode_eq_ok_iff (bytes : Bytes) (text : String) :
    decode bytes = .ok text ↔ bytes = encode text := by
  rw [encode, ← charsOfParts_eq_ok_iff 0 bytes text.toList]
  unfold decode parts
  cases charsOfParts (partsFrom 0 0 bytes) with
  | ok values =>
      rw [Except.ok.injEq, Except.ok.injEq, ← String.toList_inj, String.toList_ofList]
  | error fault => simp

def Part.letter : Part → Char
  | .char value => value
  | _ => Char.ofNat 0xFFFD

theorem map_snd_of_charsOfParts {parts : List (Nat × Part)} {values : List Char}
    (read : charsOfParts parts = .ok values) : parts.map Prod.snd = values.map Part.char := by
  induction parts generalizing values with
  | nil =>
      obtain rfl := Except.ok.inj read
      rfl
  | cons part rest ih =>
      obtain ⟨offset, part⟩ := part
      cases part with
      | char value =>
          rw [charsOfParts] at read
          split at read
          next others later =>
            obtain rfl := Except.ok.inj read
            rw [List.map_cons, List.map_cons, ih later]
          next => cases read
      | illFormed length => cases read
      | cutOff => cases read

theorem decodeLossy_encode (text : String) : decodeLossy (encode text) = text := by
  have read := (charsOfParts_eq_ok_iff 0 (encode text) text.toList).mpr rfl
  have chars := map_snd_of_charsOfParts read
  have letters : (partsFrom 0 0 (encode text)).map (Part.letter ∘ Prod.snd) = text.toList := by
    rw [← List.map_map, chars, List.map_map]
    exact List.map_id _
  rw [← String.toList_inj, decodeLossy, String.toList_ofList]
  exact letters

end Utf8

end Bootstrap
