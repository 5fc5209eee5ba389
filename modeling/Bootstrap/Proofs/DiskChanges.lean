import Bootstrap.Proofs.DiskTrees

/-!
What writing, removing and logging leave as it was: directories, the devices that are not removed, and
all files but one. Disks that have these in common let a file be written in the same way.
-/

namespace Bootstrap

namespace Disk

section akin

/-- The disks have the same directories, and the same devices but for the place of a path. -/
structure Akin (path : Path) (first second : Disk) : Prop where
  here : second.here = first.here
  directory : ∀ location,
    second.node? location = some .directory ↔ first.node? location = some .directory
  device : ∀ location, first.locate path ≠ .ok location →
    (second.node? location = some .device ↔ first.node? location = some .device)

variable {path : Path} {first second third : Disk}

theorem Akin.locate_ok_iff (akin : Akin path first second) (other : Path) (location : Location) :
    second.locate other = .ok location ↔ first.locate other = .ok location :=
  ⟨locate_mono akin.here.symm fun place => (akin.directory place).mp,
    locate_mono akin.here fun place => (akin.directory place).mpr⟩

theorem Akin.refl (disk : Disk) : Akin path disk disk :=
  ⟨rfl, fun _ => Iff.rfl, fun _ _ => Iff.rfl⟩

theorem Akin.symm (akin : Akin path first second) : Akin path second first := by
  refine ⟨akin.here.symm, fun location => (akin.directory location).symm, ?_⟩
  intro location elsewhere
  rw [Ne, akin.locate_ok_iff] at elsewhere
  exact (akin.device location elsewhere).symm

theorem Akin.trans (akin : Akin path first second) (next : Akin path second third) :
    Akin path first third := by
  refine ⟨next.here.trans akin.here,
    fun location => (next.directory location).trans (akin.directory location), ?_⟩
  intro location elsewhere
  have elsewhereToo := elsewhere
  rw [Ne, ← akin.locate_ok_iff] at elsewhereToo
  exact (next.device location elsewhereToo).trans (akin.device location elsewhere)

end akin

section changing

inductive Puts (disk : Disk) (location : Location) (content : Bytes) : Disk → Prop
  | existing {number : Nat} {present : Bytes} :
      disk.node? location = some (.file number present) →
      Puts disk location content (disk.place location (.file number content))
  | created : disk.node? location = none →
      Puts disk location content (disk.createAt location content)
  | device : disk.node? location = some .device → Puts disk location content disk

variable {disk after : Disk} {path : Path} {location : Location} {content : Bytes}

theorem write_eq_ok_iff : disk.write path content = .ok after ↔
    ∃ location, disk.locate path = .ok location ∧ endsInSlash path = false ∧
      Puts disk location content after := by
  constructor
  · intro done
    cases located : disk.locate path with
    | error error => simp [write, forWriting, located, bind, Except.bind] at done
    | ok location =>
        cases slash : endsInSlash path with
        | true => simp [write, forWriting, located, slash, bind, Except.bind] at done
        | false =>
            refine ⟨location, rfl, rfl, ?_⟩
            cases found : disk.node? location with
            | none =>
                simp [write, forWriting, located, slash, found, bind, Except.bind] at done
                exact done ▸ .created found
            | some node =>
                cases node <;>
                  simp [write, forWriting, located, slash, found, bind, Except.bind] at done
                case file number present => exact done ▸ .existing found
                case device => exact done ▸ .device found
  · rintro ⟨location, located, noSlash, puts⟩
    cases puts with
    | existing found => simp [write, forWriting, located, noSlash, found, bind, Except.bind]
    | created found => simp [write, forWriting, located, noSlash, found, bind, Except.bind]
    | device found => simp [write, forWriting, located, noSlash, found, bind, Except.bind]

theorem write_of_directory (located : disk.locate path = .ok location)
    (noSlash : endsInSlash path = false) (found : disk.node? location = some .directory) :
    disk.write path content = .error .isADirectory := by
  simp [write, forWriting, located, noSlash, found, bind, Except.bind]

theorem exists_puts (location : Location) (content : Bytes)
    (free : disk.node? location ≠ some .directory) : ∃ after, Puts disk location content after := by
  cases found : disk.node? location with
  | none => exact ⟨_, .created found⟩
  | some node =>
      cases node with
      | directory => exact absurd found free
      | file number present => exact ⟨_, .existing found⟩
      | device => exact ⟨_, .device found⟩

theorem Puts.here (puts : Puts disk location content after) : after.here = disk.here := by
  cases puts <;> rfl

theorem Puts.elsewhere (puts : Puts disk location content after) {other : Location}
    (differs : other ≠ location) : after.node? other = disk.node? other := by
  cases puts with
  | existing => rw [node?_place, if_neg differs]
  | created => exact (disk.node?_place location other _).trans (if_neg differs)
  | device => rfl

/-- A file that is written to keeps its number, or has a new one. -/
theorem Puts.there (puts : Puts disk location content after) :
    (disk.node? location = some .device ∧ after.node? location = some .device) ∨
      ∃ number, after.node? location = some (.file number content) ∧
        (disk.node? location = none ∧ number = disk.nextNumber ∨
          ∃ present, disk.node? location = some (.file number present)) := by
  cases puts with
  | @existing number present found =>
      refine .inr ⟨number, ?_, .inr ⟨present, found⟩⟩
      rw [node?_place, if_pos rfl]
  | created found =>
      refine .inr ⟨disk.nextNumber, ?_, .inl ⟨found, rfl⟩⟩
      exact (disk.node?_place location location _).trans (if_pos rfl)
  | device found => exact .inl ⟨found, found⟩

theorem Puts.free (puts : Puts disk location content after) :
    disk.node? location ≠ some .directory := by
  cases puts with
  | existing found => simp [found]
  | created found => simp [found]
  | device found => simp [found]

theorem Puts.nextNumber_le (puts : Puts disk location content after) :
    disk.nextNumber ≤ after.nextNumber := by
  cases puts with
  | existing => exact Nat.le_refl _
  | created => exact Nat.le_succ _
  | device => exact Nat.le_refl _

theorem write_numbered (numbered : disk.Numbered) (done : disk.write path content = .ok after) :
    after.Numbered := by
  have effect := disk.write_effect path content
  rw [done] at effect
  cases effect with
  | done _ _ changes => exact changes.numbered numbered

theorem write_akin {other : Path} (done : disk.write path content = .ok after) :
    Akin other disk after := by
  obtain ⟨location, -, -, puts⟩ := write_eq_ok_iff.mp done
  have kept (place : Location) : (after.node? place = some .directory ↔
      disk.node? place = some .directory) ∧
      (after.node? place = some .device ↔ disk.node? place = some .device) := by
    by_cases same : place = location
    · rw [same]
      rcases puts.there with ⟨found, there⟩ | ⟨number, there, ⟨found, -⟩ | ⟨present, found⟩⟩ <;>
        simp [found, there]
    · simp [puts.elsewhere same]
  exact ⟨puts.here, fun place => (kept place).1, fun place _ => (kept place).2⟩

theorem remove_akin (done : disk.remove path = .ok after) : Akin path disk after := by
  obtain ⟨location, node, located, found, notDirectory, -, rfl⟩ := remove_eq_ok_iff.mp done
  refine ⟨rfl, ?_, ?_⟩
  · intro place
    rw [node?_discard]
    by_cases same : place = location
    · simp [same, found, notDirectory]
    · simp [same]
  · intro place elsewhere
    have differs : place ≠ location := fun same => elsewhere (same ▸ located)
    rw [node?_discard, if_neg differs]

end changing

section logging

/-- Some log files have other contents, and nothing else has changed. -/
structure Logged (isLog : Nat → Prop) (before after : Disk) : Prop where
  here : after.here = before.here
  node? : ∀ location, after.node? location = before.node? location ∨
    ∃ number old new, isLog number ∧ before.node? location = some (.file number old) ∧
      after.node? location = some (.file number new)
  nextNumber : after.nextNumber = before.nextNumber
  numbered : before.Numbered → after.Numbered

variable {isLog : Nat → Prop} {first second third : Disk}

theorem Logged.refl (disk : Disk) : Logged isLog disk disk :=
  ⟨rfl, fun _ => .inl rfl, rfl, id⟩

theorem Logged.trans (logged : Logged isLog first second) (more : Logged isLog second third) :
    Logged isLog first third := by
  refine ⟨more.here.trans logged.here, ?_, more.nextNumber.trans logged.nextNumber,
    fun numbered => more.numbered (logged.numbered numbered)⟩
  intro location
  rcases logged.node? location with same | ⟨number, old, new, known, found, changed⟩
  · rw [← same]
    exact more.node? location
  · rcases more.node? location with kept | ⟨other, mid, last, -, again, changedToo⟩
    · exact .inr ⟨number, old, new, known, found, kept.trans changed⟩
    · rw [changed] at again
      obtain ⟨rfl, -⟩ := Node.file.inj (Option.some.inj again)
      exact .inr ⟨number, old, last, known, found, changedToo⟩

theorem logged_append (disk : Disk) {handle : Nat} (known : isLog handle) (content : Bytes) :
    Logged isLog disk (disk.append handle content) := by
  refine ⟨rfl, ?_, rfl, fun numbered => numbered.amend _ _⟩
  intro location
  rw [Disk.append, node?_amend]
  cases found : disk.node? location with
  | none => exact .inl rfl
  | some node =>
      cases node with
      | file number old =>
          by_cases same : number = handle
          · subst same
            exact .inr ⟨number, old, old ++ content, known, rfl, by simp [amendNode]⟩
          · exact .inl (by simp [amendNode, same])
      | _ => exact .inl rfl

theorem Logged.akin (logged : Logged isLog first second) (path : Path) :
    Akin path first second := by
  have kept (location : Location) : (second.node? location = some .directory ↔
      first.node? location = some .directory) ∧
      (second.node? location = some .device ↔ first.node? location = some .device) := by
    rcases logged.node? location with same | ⟨number, old, new, -, found, changed⟩
    · simp [same]
    · simp [found, changed]
  exact ⟨logged.here, fun location => (kept location).1, fun location _ => (kept location).2⟩

theorem Logged.look_eq (logged : Logged isLog first second) {path : Path} {location : Location}
    (located : first.locate path = .ok location)
    (noLog : ∀ number content, first.node? location = some (.file number content) →
      ¬isLog number) : second.look path = first.look path := by
  have locatedToo := ((logged.akin path).locate_ok_iff path location).mpr located
  have same : second.node? location = first.node? location := by
    rcases logged.node? location with same | ⟨number, old, new, known, found, -⟩
    · exact same
    · exact absurd known (noLog number old found)
  simp only [look, located, locatedToo, bind, Except.bind, same]

end logging

section looking

variable {disk after : Disk} {path : Path} {location : Location} {content : Bytes}

theorem lookAt_of_locate (located : disk.locate path = .ok location)
    (noSlash : endsInSlash path = false) :
    disk.lookAt path = (disk.sight location).elim (.error .noEntry) .ok := by
  rw [lookAt_eq, located]
  cases sight : disk.sight location <;> simp [Except.bind, sight, noSlash]

theorem exists_locate_of_lookAt {node : Node} (found : disk.lookAt path = .ok node) :
    ∃ location, disk.locate path = .ok location ∧ disk.sight location = some node := by
  rw [lookAt_eq] at found
  cases located : disk.locate path with
  | error error => simp [located, Except.bind] at found
  | ok location =>
      refine ⟨location, rfl, ?_⟩
      cases sight : disk.sight location with
      | none => simp [located, Except.bind, sight] at found
      | some present =>
          simp only [located, Except.bind, sight, Option.elim_some] at found
          split at found
          · contradiction
          · rw [Except.ok.inj found]

theorem sight_eq_device :
    disk.sight location = some .device ↔ disk.node? location = some .device := by
  rw [sight]
  cases disk.node? location with
  | none => simp
  | some node => cases node <;> simp [Node.unnumbered]

def stored (disk : Disk) (location : Location) (content : Bytes) : Node :=
  if disk.node? location = some .device then .device else .file 0 content

theorem exists_contentOf_stored (disk : Disk) (location : Location) (content : Bytes) :
    ∃ readable, contentOf (disk.stored location content) = .ok readable := by
  unfold stored
  split
  · exact ⟨[], rfl⟩
  · exact ⟨content, rfl⟩

theorem Puts.sight (puts : Puts disk location content after) :
    after.sight location = some (disk.stored location content) := by
  rcases puts.there with ⟨found, there⟩ | ⟨number, there, ⟨found, -⟩ | ⟨present, found⟩⟩ <;>
    simp [Disk.sight, stored, found, there, Node.unnumbered]

theorem Puts.lookAt (puts : Puts disk location content after) {path : Path}
    (located : after.locate path = .ok location) (noSlash : endsInSlash path = false) :
    after.lookAt path = .ok (disk.stored location content) := by
  rw [lookAt_of_locate located noSlash, puts.sight]
  rfl

theorem Akin.stored_eq {first second : Disk} (akin : Akin path first second)
    (elsewhere : first.locate path ≠ .ok location) (content : Bytes) :
    second.stored location content = first.stored location content := by
  simp only [stored, akin.device location elsewhere]

theorem Akin.lookAt_eq {first second : Disk} (akin : Akin path first second) {other : Path}
    (located : first.locate other = .ok location) (noSlash : endsInSlash other = false)
    (same : second.sight location = first.sight location) :
    second.lookAt other = first.lookAt other := by
  have locatedToo := (akin.locate_ok_iff other location).mpr located
  rw [lookAt_of_locate located noSlash, lookAt_of_locate locatedToo noSlash, same]

end looking

section removing

variable {disk : Disk} {path : Path} {location : Location}

theorem remove_of_directory (located : disk.locate path = .ok location)
    (found : disk.node? location = some .directory) :
    disk.remove path = .error .isADirectory := by
  simp [remove, located, found, bind, Except.bind]

theorem removal_akin (disk : Disk) (path : Path) :
    Akin path disk (External.removal path disk) := by
  cases removed : disk.remove path with
  | error error =>
      rw [External.removal_of_error removed]
      exact .refl disk
  | ok after =>
      rw [External.removal_of_ok removed]
      exact remove_akin removed

theorem removal_of_free (located : disk.locate path = .ok location)
    (noSlash : endsInSlash path = false) (free : disk.node? location ≠ some .directory) :
    disk.Clears path ∧ ∀ other, (External.removal path disk).node? other =
      if other = location then none else disk.node? other := by
  cases found : disk.node? location with
  | none =>
      have absent : disk.remove path = .error .noEntry := by
        simp [remove, located, found, bind, Except.bind]
      refine ⟨fun error refused => (Except.error.inj (absent.symm.trans refused)).symm, ?_⟩
      intro other
      rw [External.removal_of_error absent]
      split
      next same => rw [same, found]
      next => rfl
  | some node =>
      have notDirectory : node ≠ .directory := fun same => free (by rw [found, same])
      have removed := remove_eq_ok_iff.mpr
        ⟨location, node, located, found, notDirectory, noSlash, rfl⟩
      refine ⟨fun error refused => by simp [removed] at refused, ?_⟩
      intro other
      rw [External.removal_of_ok removed, node?_discard]

end removing

end Disk

end Bootstrap
