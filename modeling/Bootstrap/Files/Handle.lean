import Bootstrap.Files.Map

/-!
Handles on in-memory file systems: a clone of a handle leads to the same file map, so what is done
through one of them is seen through all.
-/

namespace Bootstrap

def FileMap.take (path : Path) (map : FileMap) : Bool × FileMap :=
  ((map.files.get? (normalize path)).isSome, map.remove path)

/-- The file maps in use and, for each handle, the place of the map that it leads to. -/
structure Mounts where
  maps : List FileMap
  places : List Nat
  deriving DecidableEq, Repr

namespace Mounts

def empty : Mounts :=
  ⟨[], []⟩

def create (files : List (Path × Bytes)) (mounts : Mounts) : Mounts :=
  ⟨mounts.maps ++ [.ofList files], mounts.places ++ [mounts.maps.length]⟩

def clone (handle : Nat) (mounts : Mounts) : Mounts :=
  { mounts with places := mounts.places ++ mounts.places[handle]?.toList }

def map? (handle : Nat) (mounts : Mounts) : Option FileMap :=
  mounts.places[handle]?.bind fun place => mounts.maps[place]?

def update (handle : Nat) (change : FileMap → FileMap) (mounts : Mounts) : Mounts :=
  match mounts.places[handle]? with
  | some place => { mounts with maps := mounts.maps.modify place change }
  | none => mounts

end Mounts

end Bootstrap
