import Bootstrap.Proofs.DiskFrame

/-!
Making a directory with those above it: what is there stays, and once the directory is there, making
it again does nothing. Paths through it lead where they led, as long as no directory goes.
-/

namespace Bootstrap

namespace Disk

section walking

variable {first second : Disk}

theorem walk_mono
    (keeps : ∀ location, first.node? location = some .directory →
      second.node? location = some .directory) {location target : Location}
    {segments : List String} (arrives : first.walk location segments = .ok target) :
    second.walk location segments = .ok target := by
  induction segments generalizing location with
  | nil => exact arrives
  | cons segment segments ih =>
      rw [walk] at arrives ⊢
      cases found : first.node? location with
      | none => simp [found] at arrives
      | some node =>
          cases node with
          | directory =>
              rw [found] at arrives
              rw [keeps location found]
              exact ih arrives
          | _ => simp [found] at arrives

theorem walk_congr (alike : ∀ location, second.sight location = first.sight location)
    (location : Location) (segments : List String) :
    second.walk location segments = first.walk location segments := by
  induction segments generalizing location with
  | nil => rfl
  | cons segment segments ih =>
      have same := alike location
      simp only [sight] at same
      rw [walk, walk]
      cases found : first.node? location with
      | none =>
          rw [found, Option.map_none, Option.map_eq_none_iff] at same
          rw [same]
      | some node =>
          rw [found, Option.map_some, Option.map_eq_some_iff] at same
          obtain ⟨other, foundToo, same⟩ := same
          rw [foundToo]
          cases node <;> cases other <;> simp_all [Node.unnumbered]

theorem locate_mono (here : second.here = first.here)
    (keeps : ∀ location, first.node? location = some .directory →
      second.node? location = some .directory) {path : Path} {target : Location}
    (located : first.locate path = .ok target) : second.locate path = .ok target := by
  unfold locate at located ⊢
  split at located
  · contradiction
  next noNul =>
    split at located
    · contradiction
    next nonempty =>
      rw [if_neg noNul, if_neg nonempty, here]
      exact walk_mono keeps located

theorem isDir_iff {disk : Disk} {path : Path} : disk.isDir path = true ↔
    ∃ location, disk.locate path = .ok location ∧ disk.node? location = some .directory := by
  cases located : disk.locate path with
  | error error => simp [isDir, find?, look, located, bind, Except.bind]
  | ok location =>
      cases found : disk.node? location with
      | none => simp [isDir, find?, look, located, found, bind, Except.bind]
      | some node =>
          cases slash : endsInSlash path <;> cases node <;>
            simp [isDir, find?, look, located, found, slash, bind, Except.bind, Node.isDirectory]

theorem isDir_mono (here : second.here = first.here)
    (keeps : ∀ location, first.node? location = some .directory →
      second.node? location = some .directory) {path : Path} (isDir : first.isDir path = true) :
    second.isDir path = true := by
  obtain ⟨location, located, found⟩ := isDir_iff.mp isDir
  exact isDir_iff.mpr ⟨location, locate_mono here keeps located, keeps location found⟩

end walking

section making

/-- Directories may have come; nothing else has changed. -/
structure Grows (before after : Disk) : Prop where
  here : after.here = before.here
  keeps : ∀ location, before.node? location = some .directory →
    after.node? location = some .directory
  numbered : before.Numbered → after.Numbered

theorem Grows.refl (disk : Disk) : Grows disk disk :=
  ⟨rfl, fun _ found => found, id⟩

theorem Grows.trans {first second third : Disk} (grows : Grows first second)
    (more : Grows second third) : Grows first third :=
  ⟨more.here.trans grows.here, fun location found => more.keeps location (grows.keeps location found),
    fun numbered => more.numbered (grows.numbered numbered)⟩

/-- The path names a directory that is there, or nothing. -/
def Ready (disk : Disk) (path : Path) : Prop :=
  path.text.isEmpty = true ∨ disk.isDir path = true

end making

section entering

variable {away : Location → Prop} {first second : Disk} {path : Path}

theorem AgreeOff.keeps (agree : AgreeOff away first second) (location : Location)
    (found : first.node? location = some .directory) : second.node? location = some .directory :=
  sight_eq_directory.mp ((agree.directory location).mpr (sight_eq_directory.mpr found))

theorem AgreeOff.ready (agree : AgreeOff away first second) (ready : Ready first path) :
    Ready second path :=
  ready.imp_right (isDir_mono agree.here agree.keeps)

theorem AgreeOff.entrance_ok (agree : AgreeOff away first second) {location : Location}
    (enters : first.entrance path = .ok location) : second.entrance path = .ok location := by
  unfold entrance at enters ⊢
  split at enters
  · contradiction
  next noNul =>
    rw [if_neg noNul, agree.here]
    exact walk_mono agree.keeps enters

theorem entrance_congr (here : second.here = first.here)
    (alike : ∀ location, second.sight location = first.sight location) :
    second.entrance path = first.entrance path := by
  rw [entrance, entrance, here, walk_congr alike]

end entering

end Disk

end Bootstrap
