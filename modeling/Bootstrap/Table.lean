/-!
Finite maps as lists of pairs in ascending order of their keys.
-/

namespace Bootstrap

abbrev Table (κ α : Type) := List (κ × α)

namespace Table

variable {κ α : Type} [DecidableEq κ]

def get? (key : κ) : Table κ α → Option α
  | [] => none
  | (other, value) :: rest => if other = key then some value else get? key rest

def erase (key : κ) (table : Table κ α) : Table κ α :=
  table.filter fun entry => decide (entry.1 ≠ key)

def keys (table : Table κ α) : List κ :=
  table.map Prod.fst

variable [LT κ] [DecidableLT κ]

def insert (key : κ) (value : α) : Table κ α → Table κ α
  | [] => [(key, value)]
  | (other, present) :: rest =>
      if other = key then (key, value) :: rest
      else if key < other then (key, value) :: (other, present) :: rest
      else (other, present) :: insert key value rest

omit [LT κ] [DecidableLT κ] in
theorem get?_erase_self (key : κ) (table : Table κ α) : get? key (erase key table) = none := by
  induction table with
  | nil => rfl
  | cons entry rest ih =>
      rcases entry with ⟨other, value⟩
      by_cases same : other = key
      · simpa [erase, same] using ih
      · simpa [erase, same, get?] using ih

omit [LT κ] [DecidableLT κ] in
theorem get?_erase_ne {key other : κ} (different : key ≠ other) (table : Table κ α) :
    get? key (erase other table) = get? key table := by
  induction table with
  | nil => rfl
  | cons entry rest ih =>
      rcases entry with ⟨present, value⟩
      by_cases same : present = other
      · have unequal : ¬ other = key := fun equal => different equal.symm
        simpa [erase, same, get?, unequal] using ih
      · by_cases found : present = key
        · simp [erase, get?, found, different]
        · simpa [erase, same, get?, found] using ih

theorem get?_insert_self (key : κ) (value : α) (table : Table κ α) :
    get? key (insert key value table) = some value := by
  induction table with
  | nil => simp [insert, get?]
  | cons entry rest ih =>
      rcases entry with ⟨other, present⟩
      simp only [insert]
      split
      · simp [get?]
      · rename_i different
        split
        · simp [get?]
        · simp [get?, different, ih]

theorem get?_insert_ne {key other : κ} (different : key ≠ other) (value : α) (table : Table κ α) :
    get? key (insert other value table) = get? key table := by
  induction table with
  | nil => simp [insert, get?, Ne.symm different]
  | cons entry rest ih =>
      rcases entry with ⟨present, kept⟩
      simp only [insert]
      split
      · rename_i same
        subst same
        simp [get?, Ne.symm different]
      · split
        · simp [get?, Ne.symm different]
        · simp [get?, ih]

omit [LT κ] [DecidableLT κ] in
theorem isSome_get?_iff (key : κ) (table : Table κ α) :
    (get? key table).isSome ↔ key ∈ keys table := by
  induction table with
  | nil => simp [get?, keys]
  | cons entry rest ih =>
      rcases entry with ⟨other, value⟩
      by_cases same : other = key
      · simp [get?, keys, same]
      · simpa [get?, keys, same, Ne.symm same] using ih

omit [LT κ] [DecidableLT κ] in
theorem mem_keys_erase (key other : κ) (table : Table κ α) :
    other ∈ keys (erase key table) ↔ other ∈ keys table ∧ other ≠ key := by
  by_cases same : other = key
  · simp [← isSome_get?_iff, same, get?_erase_self]
  · simp [← isSome_get?_iff, same, get?_erase_ne]

theorem mem_keys_insert (key other : κ) (value : α) (table : Table κ α) :
    other ∈ keys (insert key value table) ↔ other = key ∨ other ∈ keys table := by
  by_cases same : other = key
  · simp [← isSome_get?_iff, same, get?_insert_self]
  · simp [← isSome_get?_iff, same, get?_insert_ne]

omit [LT κ] [DecidableLT κ] in
theorem mem_of_get? {key : κ} {value : α} {table : Table κ α}
    (found : get? key table = some value) : (key, value) ∈ table := by
  induction table with
  | nil => simp [get?] at found
  | cons entry rest ih =>
      obtain ⟨other, present⟩ := entry
      rw [get?] at found
      split at found
      next same =>
        rw [same, Option.some.inj found]
        exact List.mem_cons_self
      next => exact List.mem_cons_of_mem _ (ih found)

omit [LT κ] [DecidableLT κ] in
theorem get?_of_mem {key : κ} {value : α} {table : Table κ α}
    (distinct : table.keys.Nodup) (member : (key, value) ∈ table) : get? key table = some value := by
  induction table with
  | nil => simp at member
  | cons entry rest ih =>
      obtain ⟨other, present⟩ := entry
      obtain ⟨fresh, distinct⟩ := List.nodup_cons.mp distinct
      rcases List.mem_cons.mp member with isFirst | later
      · obtain ⟨rfl, rfl⟩ := Prod.mk.inj isFirst
        simp [get?]
      · have differs : other ≠ key := by
          rintro rfl
          exact fresh (List.mem_map.mpr ⟨_, later, rfl⟩)
        rw [get?, if_neg differs]
        exact ih distinct later

theorem insert_ascending [Trans (LT.lt : κ → κ → Prop) LT.lt (LT.lt : κ → κ → Prop)]
    [Std.Trichotomous (LT.lt : κ → κ → Prop)] (key : κ) (value : α) {table : Table κ α}
    (ascending : table.keys.Pairwise (· < ·)) : (insert key value table).keys.Pairwise (· < ·) := by
  induction table with
  | nil => simp [insert, keys]
  | cons entry rest ih =>
      obtain ⟨other, present⟩ := entry
      obtain ⟨below, ascending⟩ := List.pairwise_cons.mp ascending
      rw [insert]
      split
      next same =>
        subst same
        exact List.pairwise_cons.mpr ⟨below, ascending⟩
      next differs =>
        split
        next lower =>
          refine List.pairwise_cons.mpr ⟨fun later listed => ?_, List.pairwise_cons.mpr ⟨below, ascending⟩⟩
          rcases List.mem_cons.mp listed with rfl | listed
          · exact lower
          · exact Trans.trans lower (below later listed)
        next notLower =>
          have above : other < key := Decidable.byContradiction fun notAbove =>
            differs (Std.Trichotomous.trichotomous other key notAbove notLower)
          refine List.pairwise_cons.mpr ⟨fun later listed => ?_, ih ascending⟩
          rcases (mem_keys_insert key later value rest).mp listed with rfl | listed
          · exact above
          · exact below later listed

end Table

end Bootstrap
