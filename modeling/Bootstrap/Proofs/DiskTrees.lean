import Bootstrap.Proofs.EngineFiles
import Bootstrap.Proofs.FileAppending

/-!
Disks with the same nodes in the same places, and disks that differ in the regular file at one path.
Once that file is removed, the latter are among the former.
-/

namespace Bootstrap

namespace Disk

/-- The disks have the same nodes, files with their numbers included; what has been removed and the
number that the next file gets cannot be seen. -/
structure SameTree (first second : Disk) : Prop where
  here : second.here = first.here
  node? : ∀ location, second.node? location = first.node? location

section trees

variable {first second : Disk}

theorem locate_congr (here : second.here = first.here)
    (alike : ∀ location, second.sight location = first.sight location) (path : Path) :
    second.locate path = first.locate path := by
  rw [locate, locate, here, walk_congr alike]

theorem AgreeOff.read_eq (agree : AgreeOff (fun _ => False) first second) (path : Path) :
    second.read path = first.read path := by
  have alike (location : Location) : second.sight location = first.sight location :=
    agree.sight location id
  exact read_agree agree (locate_congr agree.here alike path) fun _ _ => id

variable (same : SameTree first second)

include same

theorem SameTree.symm : SameTree second first :=
  ⟨same.here.symm, fun location => (same.node? location).symm⟩

theorem SameTree.sight_eq (location : Location) : second.sight location = first.sight location := by
  rw [sight, sight, same.node?]

theorem SameTree.agreeOff (away : Location → Prop) : AgreeOff away first second := by
  refine ⟨same.here, fun location _ => same.sight_eq location, ?_⟩
  intro location
  rw [same.sight_eq]

theorem SameTree.locate_eq (path : Path) : second.locate path = first.locate path :=
  locate_congr same.here same.sight_eq path

theorem SameTree.look_eq (path : Path) : second.look path = first.look path := by
  simp only [look, same.locate_eq, same.node?]

theorem SameTree.read_eq (path : Path) : second.read path = first.read path := by
  simp only [read, same.look_eq]

theorem SameTree.append (number : Nat) (content : Bytes) :
    SameTree (first.append number content) (second.append number content) := by
  refine ⟨same.here, ?_⟩
  intro location
  rw [Disk.append, Disk.append, node?_amend, node?_amend, same.node?]

theorem SameTree.discard (location : Location) :
    SameTree (first.discard location) (second.discard location) := by
  refine ⟨same.here, ?_⟩
  intro other
  rw [node?_discard, node?_discard, same.node?]

end trees

section removal

variable {disk after : Disk} {path : Path} {location : Location}

theorem remove_eq_ok_iff : disk.remove path = .ok after ↔
    ∃ location node, disk.locate path = .ok location ∧ disk.node? location = some node ∧
      node ≠ .directory ∧ endsInSlash path = false ∧ after = disk.discard location := by
  cases located : disk.locate path with
  | error error => simp [remove, located, bind, Except.bind]
  | ok location =>
      cases found : disk.node? location with
      | none => simp [remove, located, found, bind, Except.bind]
      | some node =>
          cases slash : endsInSlash path <;> cases node <;>
            simp [remove, located, found, slash, bind, Except.bind, eq_comm]

theorem SameTree.remove_eq_error_iff {second : Disk} (same : SameTree disk second)
    {error : OsError} : second.remove path = .error error ↔ disk.remove path = .error error := by
  cases located : disk.locate path with
  | error lost => simp [remove, same.locate_eq, located, bind, Except.bind]
  | ok location =>
      cases found : disk.node? location with
      | none => simp [remove, same.locate_eq, same.node?, located, found, bind, Except.bind]
      | some node =>
          cases slash : endsInSlash path <;> cases node <;>
            simp [remove, same.locate_eq, same.node?, located, found, slash, bind, Except.bind]

end removal

section files

def HoldsFile (disk : Disk) (path : Path) (location : Location) : Prop :=
  ∃ number content, disk.look path = .ok (location, .file number content)

/-- The disks differ in whether the path holds a regular file and in its content, if in anything. -/
structure DifferInFile (path : Path) (first second : Disk) : Prop where
  here : second.here = first.here
  node? : ∀ location, second.node? location = first.node? location ∨
    (first.HoldsFile path location ∧ second.HoldsFile path location) ∨
    (first.HoldsFile path location ∧ second.node? location = none) ∨
    (first.node? location = none ∧ second.HoldsFile path location)

variable {first second : Disk} {path : Path} {location : Location}

theorem HoldsFile.spec {disk : Disk} (holds : disk.HoldsFile path location) :
    disk.locate path = .ok location ∧ endsInSlash path = false ∧
      ∃ number content, disk.node? location = some (.file number content) := by
  obtain ⟨number, content, found⟩ := holds
  cases located : disk.locate path with
  | error error => simp [look, located, bind, Except.bind] at found
  | ok place =>
      cases present : disk.node? place with
      | none => simp [look, located, present, bind, Except.bind] at found
      | some node =>
          cases slash : endsInSlash path <;> cases node <;>
            simp_all [look, bind, Except.bind, Node.isDirectory]

theorem HoldsFile.remove {disk : Disk} (holds : disk.HoldsFile path location) :
    disk.remove path = .ok (disk.discard location) := by
  obtain ⟨located, noSlash, number, content, found⟩ := holds.spec
  exact remove_eq_ok_iff.mpr ⟨location, _, located, found, nofun, noSlash, rfl⟩

theorem DifferInFile.symm (differ : DifferInFile path first second) :
    DifferInFile path second first := by
  refine ⟨differ.here.symm, ?_⟩
  intro location
  rcases differ.node? location with same | both | ⟨held, gone⟩ | ⟨absent, holds⟩
  · exact .inl same.symm
  · exact .inr (.inl both.symm)
  · exact .inr (.inr (.inr ⟨gone, held⟩))
  · exact .inr (.inr (.inl ⟨holds, absent⟩))

theorem DifferInFile.keeps (differ : DifferInFile path first second) (location : Location)
    (found : first.node? location = some .directory) : second.node? location = some .directory := by
  rcases differ.node? location with same | ⟨held, -⟩ | ⟨held, -⟩ | ⟨absent, -⟩
  · rw [same, found]
  · obtain ⟨-, -, number, content, there⟩ := held.spec
    simp [there] at found
  · obtain ⟨-, -, number, content, there⟩ := held.spec
    simp [there] at found
  · simp [absent] at found

theorem DifferInFile.locate_ok (differ : DifferInFile path first second)
    (located : first.locate path = .ok location) : second.locate path = .ok location :=
  locate_mono differ.here differ.keeps located

theorem DifferInFile.sameTree (differ : DifferInFile path first second)
    (noFile : ∀ location, ¬first.HoldsFile path location)
    (noFileToo : ∀ location, ¬second.HoldsFile path location) : SameTree first second := by
  refine ⟨differ.here, ?_⟩
  intro location
  rcases differ.node? location with same | ⟨held, -⟩ | ⟨held, -⟩ | ⟨-, held⟩
  · exact same
  · exact absurd held (noFile location)
  · exact absurd held (noFile location)
  · exact absurd held (noFileToo location)

theorem DifferInFile.elsewhere (differ : DifferInFile path first second)
    (holds : first.HoldsFile path location) {other : Location} (differs : other ≠ location) :
    second.node? other = first.node? other := by
  have located := holds.spec.1
  have locatedToo := differ.locate_ok located
  rcases differ.node? other with same | ⟨held, -⟩ | ⟨held, -⟩ | ⟨-, held⟩
  · exact same
  · exact absurd (Except.ok.inj (held.spec.1.symm.trans located)) differs
  · exact absurd (Except.ok.inj (held.spec.1.symm.trans located)) differs
  · exact absurd (Except.ok.inj (held.spec.1.symm.trans locatedToo)) differs

/-- Where the first disk holds a file, removing it leaves what the second has without its own. -/
theorem DifferInFile.remove_of_holds (differ : DifferInFile path first second)
    (holds : first.HoldsFile path location) :
    (second.remove path = .ok (second.discard location) ∧
        SameTree (first.discard location) (second.discard location)) ∨
      (second.remove path = .error .noEntry ∧ SameTree (first.discard location) second) := by
  obtain ⟨located, noSlash, number, content, found⟩ := holds.spec
  have locatedToo := differ.locate_ok located
  cases there : second.node? location with
  | none =>
      right
      refine ⟨by simp [remove, locatedToo, there, bind, Except.bind], differ.here, ?_⟩
      intro other
      rw [node?_discard]
      split
      next same => rw [same, there]
      next differs => exact differ.elsewhere holds differs
  | some node =>
      left
      have file : node ≠ .directory := by
        rintro rfl
        have kept := differ.symm.keeps location there
        simp [found] at kept
      refine ⟨remove_eq_ok_iff.mpr ⟨location, node, locatedToo, there, file, noSlash, rfl⟩,
        differ.here, ?_⟩
      intro other
      rw [node?_discard, node?_discard]
      split
      next => rfl
      next differs => exact differ.elsewhere holds differs

/-- Nothing stands in the way of a new file at the path: what was there can be removed. -/
def Clears (disk : Disk) (path : Path) : Prop :=
  ∀ error, disk.remove path = .error error → error = .noEntry

theorem SameTree.removal_eq (same : SameTree first second) (path : Path) :
    SameTree (External.removal path first) (External.removal path second) := by
  cases removed : first.remove path with
  | error error =>
      have refused := same.remove_eq_error_iff.mpr removed
      rw [External.removal_of_error removed, External.removal_of_error refused]
      exact same
  | ok after =>
      obtain ⟨location, node, located, found, file, noSlash, rfl⟩ := remove_eq_ok_iff.mp removed
      have removedToo : second.remove path = .ok (second.discard location) :=
        remove_eq_ok_iff.mpr ⟨location, node, (same.locate_eq path).trans located,
          (same.node? location).trans found, file, noSlash, rfl⟩
      rw [External.removal_of_ok removed, External.removal_of_ok removedToo]
      exact same.discard location

theorem HoldsFile.clears {disk : Disk} (holds : disk.HoldsFile path location) :
    disk.Clears path := by
  intro error refused
  rw [holds.remove] at refused
  contradiction

theorem DifferInFile.removal_of_holds (differ : DifferInFile path first second)
    (holds : first.HoldsFile path location) : second.Clears path ∧
      SameTree (External.removal path first) (External.removal path second) := by
  rw [External.removal_of_ok holds.remove]
  rcases differ.remove_of_holds holds with ⟨removed, same⟩ | ⟨absent, same⟩
  · rw [External.removal_of_ok removed]
    refine ⟨?_, same⟩
    intro error refused
    rw [removed] at refused
    contradiction
  · rw [External.removal_of_error absent]
    refine ⟨?_, same⟩
    intro error refused
    rw [absent] at refused
    exact (Except.error.inj refused).symm

theorem DifferInFile.removal (differ : DifferInFile path first second) :
    SameTree (External.removal path first) (External.removal path second) ∧
      ((first.Clears path ∧ second.Clears path) ∨
        ∃ error, error ≠ .noEntry ∧ first.remove path = .error error ∧
          second.remove path = .error error) := by
  by_cases held : ∃ location, first.HoldsFile path location
  · obtain ⟨location, holds⟩ := held
    obtain ⟨clears, same⟩ := differ.removal_of_holds holds
    exact ⟨same, .inl ⟨holds.clears, clears⟩⟩
  · by_cases heldToo : ∃ location, second.HoldsFile path location
    · obtain ⟨location, holds⟩ := heldToo
      obtain ⟨clears, same⟩ := differ.symm.removal_of_holds holds
      exact ⟨same.symm, .inl ⟨clears, holds.clears⟩⟩
    · have same := differ.sameTree (not_exists.mp held) (not_exists.mp heldToo)
      refine ⟨same.removal_eq path, ?_⟩
      by_cases clears : first.Clears path
      · exact .inl ⟨clears, fun error refused => clears error (same.remove_eq_error_iff.mp refused)⟩
      · simp only [Clears, not_forall] at clears
        obtain ⟨error, refused, other⟩ := clears
        exact .inr ⟨error, other, refused, same.remove_eq_error_iff.mpr refused⟩

end files

end Disk

end Bootstrap
