import Bootstrap.Proofs.PathSpelling
import Bootstrap.Proofs.StoredContents

/-!
File systems in use through any number of handles: every handle on a file system shows what was
last written through any of them.
-/

namespace Bootstrap

namespace Mounts

inductive Use where
  | create (files : List (Path × Bytes))
  | clone (handle : Nat)
  | step (handle : Nat) (step : FileMap.Step)
  deriving DecidableEq, Repr

def perform (mounts : Mounts) : Use → Mounts
  | .create files => mounts.create files
  | .clone handle => mounts.clone handle
  | .step handle step => mounts.update handle (·.perform step)

def performAll (mounts : Mounts) (uses : List Use) : Mounts :=
  uses.foldl perform mounts

/-- The step that a use does on the map at a place, if it is issued through a handle on it. -/
def issued (place : Nat) (mounts : Mounts) : Use → List FileMap.Step
  | .create _ => []
  | .clone _ => []
  | .step handle step => if mounts.places[handle]? = some place then [step] else []

def stepsAt (place : Nat) (mounts : Mounts) : List Use → List FileMap.Step
  | [] => []
  | use :: rest => mounts.issued place use ++ (mounts.perform use).stepsAt place rest

theorem places_clone {mounts : Mounts} {handle place : Nat}
    (leads : mounts.places[handle]? = some place) :
    (mounts.clone handle).places = mounts.places ++ [place] := by
  rw [clone, leads]
  rfl

theorem maps_update (place handle : Nat) (step : FileMap.Step) (mounts : Mounts) :
    (mounts.update handle (·.perform step)).maps[place]? =
      mounts.maps[place]?.map (·.performAll (mounts.issued place (.step handle step))) := by
  by_cases leads : mounts.places[handle]? = some place
  · have one : mounts.issued place (.step handle step) = [step] := if_pos leads
    rw [one]
    simp only [update, leads, List.getElem?_modify_eq]
    rfl
  · have nothing : mounts.issued place (.step handle step) = [] := if_neg leads
    rw [nothing]
    refine Eq.trans ?_ Option.map_id'.symm
    unfold update
    split
    next other there =>
      refine List.getElem?_modify_ne _ _ ?_
      rintro rfl
      exact leads there
    next => rfl

theorem maps_perform {mounts : Mounts} {place : Nat} (present : place < mounts.maps.length)
    (use : Use) : (mounts.perform use).maps[place]? =
      mounts.maps[place]?.map (·.performAll (mounts.issued place use)) := by
  cases use with
  | create files =>
      rw [perform, create, List.getElem?_append_left present]
      exact Option.map_id'.symm
  | clone handle => simp [perform, clone, issued, FileMap.performAll]
  | step handle step => exact maps_update place handle step mounts

theorem length_maps_perform (mounts : Mounts) (use : Use) :
    mounts.maps.length ≤ (mounts.perform use).maps.length := by
  cases use with
  | create files => simp [perform, create]
  | clone handle => exact Nat.le_refl _
  | step handle step =>
      simp only [perform, update]
      split
      next => rw [List.length_modify]
      next => exact Nat.le_refl _

theorem maps_performAll {mounts : Mounts} {place : Nat} (present : place < mounts.maps.length)
    (uses : List Use) : (mounts.performAll uses).maps[place]? =
      mounts.maps[place]?.map (·.performAll (mounts.stepsAt place uses)) := by
  induction uses generalizing mounts with
  | nil => simp [performAll, stepsAt, FileMap.performAll]
  | cons use rest ih =>
      have still := Nat.lt_of_lt_of_le present (length_maps_perform mounts use)
      calc ((mounts.perform use).performAll rest).maps[place]?
          = (mounts.perform use).maps[place]?.map
              (·.performAll ((mounts.perform use).stepsAt place rest)) := ih still
        _ = (mounts.maps[place]?.map (·.performAll (mounts.issued place use))).map
              (·.performAll ((mounts.perform use).stepsAt place rest)) := by
            rw [maps_perform present use]
        _ = mounts.maps[place]?.map (·.performAll (mounts.stepsAt place (use :: rest))) := by
            rw [Option.map_map]
            congr 1
            funext map
            exact (FileMap.performAll_append _ _ _).symm

def history (mounts : Mounts) (files : List (Path × Bytes)) (uses : List Use) : List FileMap.Step :=
  files.map (fun file => .write file.1 file.2) ++
    (mounts.create files).stepsAt mounts.maps.length uses

theorem map?_performAll_create (mounts : Mounts) (files : List (Path × Bytes)) (uses : List Use)
    {handle : Nat}
    (leads : ((mounts.create files).performAll uses).places[handle]? = some mounts.maps.length) :
    ((mounts.create files).performAll uses).map? handle =
      some (FileMap.empty.performAll (mounts.history files uses)) := by
  have present : mounts.maps.length < (mounts.create files).maps.length := by simp [create]
  have first : (mounts.create files).maps[mounts.maps.length]? = some (.ofList files) := by
    simp [create]
  rw [map?, leads, Option.bind_some, maps_performAll present uses, first, Option.map_some, history,
    FileMap.performAll_append, FileMap.ofList_eq_performAll]

theorem stores_through_handles (mounts : Mounts) (files : List (Path × Bytes)) (uses : List Use)
    {handle : Nat}
    (leads : ((mounts.create files).performAll uses).places[handle]? = some mounts.maps.length) :
    (∃ map, ((mounts.create files).performAll uses).map? handle = some map ∧
      ∀ path, map.Stores (mounts.history files uses) path) ∧
    (((mounts.create files).performAll uses).clone handle).places =
      ((mounts.create files).performAll uses).places ++ [mounts.maps.length] ∧
    FileMap.Spelling := by
  refine ⟨⟨_, map?_performAll_create mounts files uses leads, ?_⟩, places_clone leads,
    FileMap.spelling⟩
  exact FileMap.stores_performAll _

theorem clone_stores :
    let uses := [Use.clone 0, .step 1 (.write ⟨"\\a"⟩ [7]), .step 0 (.remove ⟨"b/"⟩)]
    let final := (empty.create [(⟨"/a/"⟩, [1]), (⟨"b"⟩, [2])]).performAll uses
    final.places[1]? = some 0 ∧
      ∃ map, final.map? 1 = some map ∧ map.read ⟨"/a//"⟩ = .ok [7] ∧ map.isFile ⟨"b\\"⟩ = false := by
  intro uses final
  have leads : final.places[1]? = some 0 := by decide
  obtain ⟨⟨map, found, stored⟩, _⟩ := stores_through_handles empty _ uses leads
  have whole : final.map? 1 = some ⟨[("/a", [7])]⟩ := by decide
  obtain rfl := Option.some.inj (whole.symm.trans found)
  refine ⟨leads, _, found, ?_, by decide⟩
  exact ((stored _).read [7]).mpr ⟨_, ⟨"\\a"⟩, [.remove ⟨"b/"⟩], rfl, by decide, by decide⟩

end Mounts

end Bootstrap
