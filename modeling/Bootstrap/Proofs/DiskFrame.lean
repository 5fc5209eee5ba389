import Mathlib.Data.List.Lex
import Mathlib.Data.String.Basic
import Bootstrap.Disk.Access
import Bootstrap.Proofs.ScratchNames

/-!
What an operation on a disk leaves alone. A disk is looked at without its files' numbers; every
operation changes what is seen at one place at most, and two disks that are seen alike at a path
answer alike there.
-/

namespace Bootstrap

def Node.unnumbered : Node → Node
  | .file _ content => .file 0 content
  | node => node

namespace Disk

def sight (disk : Disk) (location : Location) : Option Node :=
  (disk.node? location).map Node.unnumbered

theorem sight_eq_directory {disk : Disk} {location : Location} :
    disk.sight location = some .directory ↔ disk.node? location = some .directory := by
  rw [sight]
  cases disk.node? location with
  | none => simp
  | some node => cases node <;> simp [Node.unnumbered]

/-- A well-kept disk: the table is in order, and every file has a number of its own, below the next. -/
structure Numbered (disk : Disk) : Prop where
  ascending : disk.nodes.keys.Pairwise (· < ·)
  fresh : ∀ {location number content}, disk.node? location = some (.file number content) →
    number < disk.nextNumber
  own : ∀ {location other number content present},
    disk.node? location = some (.file number content) →
    disk.node? other = some (.file number present) → location = other

section steps

variable {disk : Disk} {location : Location}

theorem node?_place (disk : Disk) (location other : Location) (node : Node) :
    (disk.place location node).node? other =
      if other = location then some node else disk.node? other := by
  split
  next same =>
    subst same
    exact Table.get?_insert_self other node disk.nodes
  next differs => exact Table.get?_insert_ne differs node disk.nodes

theorem node?_discard (disk : Disk) (location other : Location) :
    (disk.discard location).node? other = if other = location then none else disk.node? other := by
  have nodes : (disk.discard location).nodes = Table.erase location disk.nodes := by
    simp [discard, forget, Table.erase]
  rw [node?, nodes]
  split
  next same =>
    subst same
    exact Table.get?_erase_self other disk.nodes
  next differs => exact Table.get?_erase_ne differs disk.nodes

theorem Numbered.insert {after : Disk} {node : Node} (numbered : disk.Numbered)
    (nodes : after.nodes = disk.nodes.insert location node)
    (next : disk.nextNumber ≤ after.nextNumber)
    (fresh : ∀ number content, node = .file number content → number < after.nextNumber ∧
      ∀ other present, disk.node? other = some (.file number present) → other = location) :
    after.Numbered := by
  have seen (other : Location) : after.node? other =
      if other = location then some node else disk.node? other := by
    rw [node?, nodes]
    exact disk.node?_place location other node
  constructor
  · rw [nodes]
    exact Table.insert_ascending location node numbered.ascending
  · intro other number content found
    rw [seen] at found
    split at found
    · exact (fresh number content (Option.some.inj found)).1
    · exact Nat.lt_of_lt_of_le (numbered.fresh found) next
  · intro first second number content present foundFirst foundSecond
    rw [seen] at foundFirst foundSecond
    split at foundFirst <;> split at foundSecond
    next same again => rw [same, again]
    next same _ =>
      rw [(fresh number content (Option.some.inj foundFirst)).2 second present foundSecond, same]
    next _ same =>
      rw [(fresh number present (Option.some.inj foundSecond)).2 first content foundFirst, same]
    next => exact numbered.own foundFirst foundSecond

theorem Numbered.discard (numbered : disk.Numbered) : (disk.discard location).Numbered where
  ascending := List.Pairwise.sublist (List.Sublist.map _ List.filter_sublist) numbered.ascending
  fresh := fun found => by
    rw [node?_discard] at found
    split at found
    · contradiction
    · exact numbered.fresh found
  own := fun foundFirst foundSecond => by
    rw [node?_discard] at foundFirst foundSecond
    split at foundFirst
    · contradiction
    · split at foundSecond
      · contradiction
      · exact numbered.own foundFirst foundSecond

theorem Numbered.contentOf?_eq (numbered : disk.Numbered) {number : Nat} {content : Bytes}
    (found : disk.node? location = some (.file number content)) :
    disk.contentOf? number = some content := by
  have distinct : disk.nodes.keys.Nodup := numbered.ascending.imp fun less => ne_of_lt less
  unfold contentOf?
  generalize search : disk.nodes.findSome? _ = result
  cases result with
  | none =>
      have missed := List.findSome?_eq_none_iff.mp search _ (Table.mem_of_get? found)
      simp at missed
  | some other =>
      obtain ⟨⟨place, node⟩, listed, gives⟩ := List.exists_of_findSome?_eq_some search
      have there : disk.node? place = some node := Table.get?_of_mem distinct listed
      cases node with
      | file present kept =>
          simp only at gives
          split at gives
          next same =>
            subst same
            rw [numbered.own found there, there] at found
            rw [← gives, (Node.file.inj (Option.some.inj found)).2]
            rfl
          next => contradiction
      | _ => simp at gives

theorem numbered_empty : Disk.empty.Numbered := by
  have noFile (location : Location) (number : Nat) (content : Bytes) :
      Disk.empty.node? location ≠ some (.file number content) := by
    simp only [node?, empty, Table.get?]
    repeat' split
    all_goals simp
  exact ⟨by decide, fun found => absurd found (noFile _ _ _),
    fun found => absurd found (noFile _ _ _)⟩

end steps

section effects

structure Changes (before after : Disk) (location : Location) (seen : Option Node) : Prop where
  here : after.here = before.here
  there : after.sight location = seen
  elsewhere : ∀ other, other ≠ location → after.sight other = before.sight other
  numbered : before.Numbered → after.Numbered

/-- How an operation on a path goes: what is seen there decides whether it is refused and else what
is to be seen there afterwards; nothing else changes. -/
inductive Effect (disk : Disk) (path : Path) (change : Option Node → Except OsError (Option Node)) :
    Except OsError Disk → Prop
  | lost {error} : disk.locate path = .error error → Effect disk path change (.error error)
  | refused {location error} : disk.locate path = .ok location →
      change (disk.sight location) = .error error → Effect disk path change (.error error)
  | done {location seen after} : disk.locate path = .ok location →
      change (disk.sight location) = .ok seen → Changes disk after location seen →
      Effect disk path change (.ok after)

def written (path : Path) (content : Bytes) (seen : Option Node) : Except OsError (Option Node) :=
  if endsInSlash path then .error .isADirectory
  else
    match seen with
    | some .directory => .error .isADirectory
    | some .device => .ok (some .device)
    | _ => .ok (some (.file 0 content))

theorem Changes.place {disk : Disk} {location : Location} {node : Node} {after : Disk}
    (nodes : after.nodes = disk.nodes.insert location node) (here : after.here = disk.here)
    (numbered : disk.Numbered → after.Numbered) :
    Changes disk after location (some node.unnumbered) := by
  have seen (other : Location) : after.node? other =
      if other = location then some node else disk.node? other := by
    rw [node?, nodes]
    exact disk.node?_place location other node
  exact ⟨here, by simp [sight, seen], fun other differs => by simp [sight, seen, differs], numbered⟩

theorem Changes.refl {disk : Disk} {location : Location} :
    Changes disk disk location (disk.sight location) :=
  ⟨rfl, rfl, fun _ _ => rfl, id⟩

theorem write_effect (disk : Disk) (path : Path) (content : Bytes) :
    Effect disk path (written path content) (disk.write path content) := by
  cases located : disk.locate path with
  | error error =>
      have refused : disk.write path content = .error error := by
        simp [write, forWriting, located, bind, Except.bind]
      rw [refused]
      exact .lost located
  | ok location =>
      cases slash : endsInSlash path with
      | true =>
          have refused : disk.write path content = .error .isADirectory := by
            simp [write, forWriting, located, slash, bind, Except.bind]
          rw [refused]
          exact .refused located (by simp [written, slash])
      | false =>
          cases found : disk.node? location with
          | none =>
              have created : disk.write path content = .ok (disk.createAt location content) := by
                simp [write, forWriting, located, slash, found, bind, Except.bind]
              rw [created]
              refine .done located (by simp [written, slash, sight, found]; rfl)
                (.place rfl rfl fun numbered => numbered.insert rfl (Nat.le_succ _) ?_)
              rintro number present ⟨⟩
              exact ⟨Nat.lt_succ_self _, fun other present there =>
                absurd (numbered.fresh there) (Nat.lt_irrefl _)⟩
          | some node =>
              cases node with
              | directory =>
                  have refused : disk.write path content = .error .isADirectory := by
                    simp [write, forWriting, located, slash, found, bind, Except.bind]
                  rw [refused]
                  exact .refused located (by simp [written, slash, sight, found, Node.unnumbered])
              | file number present =>
                  have replaced : disk.write path content =
                      .ok (disk.place location (.file number content)) := by
                    simp [write, forWriting, located, slash, found, bind, Except.bind]
                  rw [replaced]
                  refine .done located (by simp [written, slash, sight, found, Node.unnumbered])
                    (.place rfl rfl fun numbered => numbered.insert rfl (Nat.le_refl _) ?_)
                  rintro other kept ⟨⟩
                  exact ⟨numbered.fresh found, fun other present there => numbered.own there found⟩
              | device =>
                  have kept : disk.write path content = .ok disk := by
                    simp [write, forWriting, located, slash, found, bind, Except.bind]
                  rw [kept]
                  exact .done located (by simp [written, slash, sight, found, Node.unnumbered]) .refl

def removed (path : Path) : Option Node → Except OsError (Option Node)
  | none => .error .noEntry
  | some .directory => .error .isADirectory
  | some _ => if endsInSlash path then .error .notADirectory else .ok none

theorem Changes.discard (disk : Disk) (location : Location) :
    Changes disk (disk.discard location) location none :=
  ⟨rfl, by simp [sight, node?_discard], fun other differs => by simp [sight, node?_discard, differs],
    fun numbered => numbered.discard⟩

theorem remove_effect (disk : Disk) (path : Path) :
    Effect disk path (removed path) (disk.remove path) := by
  cases located : disk.locate path with
  | error error =>
      have refused : disk.remove path = .error error := by
        simp [remove, located, bind, Except.bind]
      rw [refused]
      exact .lost located
  | ok location =>
      cases found : disk.node? location with
      | none =>
          have refused : disk.remove path = .error .noEntry := by
            simp [remove, located, found, bind, Except.bind]
          rw [refused]
          exact .refused located (by simp [removed, sight, found])
      | some node =>
          by_cases isDirectory : node = .directory
          · have refused : disk.remove path = .error .isADirectory := by
              simp [remove, located, found, isDirectory, bind, Except.bind]
            rw [refused]
            exact .refused located (by simp [removed, sight, found, isDirectory, Node.unnumbered])
          · have outcome : removed path (disk.sight location) =
                if endsInSlash path then .error .notADirectory else .ok none := by
              cases node <;> simp_all [removed, sight, Node.unnumbered]
            have removes : disk.remove path =
                if endsInSlash path then .error .notADirectory else .ok (disk.discard location) := by
              cases node <;> simp_all [remove, bind, Except.bind]
            rw [removes]
            split
            next slash => exact .refused located (by rw [outcome, if_pos slash])
            next noSlash =>
              exact .done located (by rw [outcome, if_neg noSlash]) (.discard disk location)

/-- A change that puts no directory in a place and takes none away. -/
def SparesDirectories (change : Option Node → Except OsError (Option Node)) : Prop :=
  ∀ before after, change before = .ok after →
    before ≠ some .directory ∧ after ≠ some .directory

theorem written_spares (path : Path) (content : Bytes) : SparesDirectories (written path content) := by
  intro before after changed
  unfold written at changed
  split at changed
  · contradiction
  · split at changed
    · contradiction
    · rw [← Except.ok.inj changed]
      simp
    next notDirectory _ =>
      refine ⟨fun same => notDirectory same, ?_⟩
      rw [← Except.ok.inj changed]
      simp

theorem removed_ok {path : Path} {before after : Option Node}
    (changed : removed path before = .ok after) : before ≠ some .directory ∧ after = none := by
  unfold removed at changed
  split at changed
  · contradiction
  · contradiction
  next notDirectory =>
    split at changed
    · contradiction
    · exact ⟨fun same => notDirectory (Option.some.inj same), (Except.ok.inj changed).symm⟩

theorem removed_spares (path : Path) : SparesDirectories (removed path) := by
  intro before after changed
  obtain ⟨notDirectory, gone⟩ := removed_ok changed
  exact ⟨notDirectory, by simp [gone]⟩

end effects

section agreement

/-- The disks are seen alike outside the places set aside, and have the same directories. -/
structure AgreeOff (away : Location → Prop) (first second : Disk) : Prop where
  here : second.here = first.here
  sight : ∀ location, ¬away location → second.sight location = first.sight location
  directory : ∀ location,
    second.sight location = some .directory ↔ first.sight location = some .directory

variable {away : Location → Prop} {first second third : Disk}

theorem AgreeOff.refl (disk : Disk) : AgreeOff away disk disk :=
  ⟨rfl, fun _ _ => rfl, fun _ => Iff.rfl⟩

theorem AgreeOff.trans (agree : AgreeOff away first second) (next : AgreeOff away second third) :
    AgreeOff away first third :=
  ⟨next.here.trans agree.here,
    fun location outside => (next.sight location outside).trans (agree.sight location outside),
    fun location => (next.directory location).trans (agree.directory location)⟩

theorem AgreeOff.mono {larger : Location → Prop} (includes : ∀ location, away location → larger location)
    (agree : AgreeOff away first second) : AgreeOff larger first second :=
  ⟨agree.here, fun location outside => agree.sight location fun inside => outside (includes _ inside),
    agree.directory⟩

theorem Changes.agreeOff {location : Location} {seen : Option Node}
    (changes : Changes first second location seen) (before : first.sight location ≠ some .directory)
    (after : seen ≠ some .directory) : AgreeOff (· = location) first second := by
  refine ⟨changes.here, changes.elsewhere, fun other => ?_⟩
  by_cases same : other = location
  · subst same
    rw [changes.there]
    exact ⟨fun isDirectory => absurd isDirectory after, fun isDirectory => absurd isDirectory before⟩
  · rw [changes.elsewhere other same]

theorem Effect.agreeOff {path : Path} {change : Option Node → Except OsError (Option Node)}
    (spares : SparesDirectories change) (effect : Effect first path change (.ok second)) :
    ∃ location, first.locate path = .ok location ∧ AgreeOff (· = location) first second ∧
      (first.Numbered → second.Numbered) := by
  cases effect with
  | @done location seen _ located changed changes =>
      obtain ⟨before, after⟩ := spares _ _ changed
      exact ⟨location, located, changes.agreeOff before after, changes.numbered⟩

theorem Effect.pair {path : Path} {change : Option Node → Except OsError (Option Node)}
    {result other : Except OsError Disk} (agree : AgreeOff away first second) (same : second.locate path = first.locate path)
    (outside : ∀ location, first.locate path = .ok location → ¬away location)
    (effect : Effect first path change result) (again : Effect second path change other) :
    (∃ error, result = .error error ∧ other = .error error) ∨
      ∃ left right, result = .ok left ∧ other = .ok right ∧ AgreeOff away left right := by
  cases effect with
  | @lost error lost =>
      cases again with
      | lost lostToo =>
          rw [same, lost] at lostToo
          exact .inl ⟨error, rfl, by rw [Except.error.inj lostToo]⟩
      | refused located _ | done located _ _ => simp [same, lost] at located
  | @refused location error located refused =>
      have seen := agree.sight location (outside location located)
      cases again with
      | lost lost => simp [same, located] at lost
      | refused locatedToo refusedToo =>
          rw [same, located] at locatedToo
          rw [← Except.ok.inj locatedToo, seen, refused] at refusedToo
          exact .inl ⟨error, rfl, by rw [Except.error.inj refusedToo]⟩
      | done locatedToo changed _ =>
          rw [same, located] at locatedToo
          simp [← Except.ok.inj locatedToo, seen, refused] at changed
  | @done location seen left located changed changes =>
      have alike := agree.sight location (outside location located)
      cases again with
      | lost lost => simp [same, located] at lost
      | refused locatedToo refusedToo =>
          rw [same, located] at locatedToo
          simp [← Except.ok.inj locatedToo, alike, changed] at refusedToo
      | @done place seenToo right locatedToo changedToo changesToo =>
          obtain rfl : location = place := by
            rw [same, located] at locatedToo
            exact Except.ok.inj locatedToo
          rw [alike, changed] at changedToo
          obtain rfl := Except.ok.inj changedToo
          refine .inr ⟨left, right, rfl, rfl, changesToo.here.trans (agree.here.trans changes.here.symm),
            fun other outside => ?_, fun other => ?_⟩
          · by_cases there : other = location
            · rw [there, changesToo.there, changes.there]
            · rw [changesToo.elsewhere other there, changes.elsewhere other there,
                agree.sight other outside]
          · by_cases there : other = location
            · rw [there, changesToo.there, changes.there]
            · rw [changesToo.elsewhere other there, changes.elsewhere other there,
                agree.directory other]

end agreement

section looking

def lookAt (disk : Disk) (path : Path) : Except OsError Node :=
  (disk.look path).map fun found => found.2.unnumbered

def contentOf : Node → Except OsError Bytes
  | .directory => .error .isADirectory
  | .file _ content => .ok content
  | .device => .ok []

theorem lookAt_eq (disk : Disk) (path : Path) :
    disk.lookAt path = (disk.locate path).bind fun location =>
      ((disk.sight location).elim (.error .noEntry) fun node =>
        if endsInSlash path ∧ !node.isDirectory then .error .notADirectory else .ok node) := by
  cases located : disk.locate path with
  | error error => simp [lookAt, look, located, bind, Except.bind, Except.map]
  | ok location =>
      cases found : disk.node? location with
      | none => simp [lookAt, look, located, sight, found, bind, Except.bind, Except.map]
      | some node =>
          cases slash : endsInSlash path <;> cases node <;>
            simp [lookAt, look, located, sight, found, slash, bind, Except.bind, Except.map,
              Node.isDirectory, Node.unnumbered]

theorem read_eq (disk : Disk) (path : Path) : disk.read path = (disk.lookAt path).bind contentOf := by
  cases found : disk.look path with
  | error error => simp [read, lookAt, found, bind, Except.bind, Except.map]
  | ok found_ =>
      obtain ⟨location, node⟩ := found_
      cases node <;> simp [read, lookAt, found, bind, Except.bind, Except.map, contentOf,
        Node.unnumbered]

theorem numberOf_eq (disk : Disk) (path : Path) :
    (disk.numberOf path).map (fun _ => ()) =
      (disk.lookAt path).bind fun node => (contentOf node).map fun _ => () := by
  cases found : disk.look path with
  | error error => simp [numberOf, lookAt, found, bind, Except.bind, Except.map]
  | ok found_ =>
      obtain ⟨location, node⟩ := found_
      cases node <;> simp [numberOf, lookAt, found, bind, Except.bind, Except.map, contentOf,
        Node.unnumbered]

theorem isFile_eq (disk : Disk) (path : Path) :
    disk.isFile path = (disk.lookAt path).toOption.any Node.isFile := by
  cases found : disk.look path with
  | error error => simp [isFile, find?, lookAt, found, Except.map, Except.toOption]
  | ok found_ =>
      obtain ⟨location, node⟩ := found_
      cases node <;> simp [isFile, find?, lookAt, found, Except.map, Except.toOption,
        Node.unnumbered, Node.isFile]

variable {away : Location → Prop} {first second : Disk} {path : Path}
  (agree : AgreeOff away first second) (same : second.locate path = first.locate path)
  (outside : ∀ location, first.locate path = .ok location → ¬away location)

include agree same outside

theorem lookAt_agree : second.lookAt path = first.lookAt path := by
  rw [lookAt_eq, lookAt_eq, same]
  cases located : first.locate path with
  | error error => rfl
  | ok location => simp only [Except.bind, agree.sight location (outside location located)]

theorem read_agree : second.read path = first.read path := by
  rw [read_eq, read_eq, lookAt_agree agree same outside]

theorem numberOf_agree :
    (second.numberOf path).map (fun _ => ()) = (first.numberOf path).map fun _ => () := by
  rw [numberOf_eq, numberOf_eq, lookAt_agree agree same outside]

theorem isFile_agree : second.isFile path = first.isFile path := by
  rw [isFile_eq, isFile_eq, lookAt_agree agree same outside]

end looking

end Disk

end Bootstrap
