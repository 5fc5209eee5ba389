import Mathlib.Data.List.Basic
import Bootstrap.External.Run
import Bootstrap.Proofs.DiskFrame
import Bootstrap.Proofs.Listening

/-!
Changing the content of a file by its number: every file stays in its place, and no other file
changes. This is all that logging to files does to a disk.
-/

namespace Bootstrap

namespace Table

theorem get?_mapValues {κ α : Type} [DecidableEq κ] (key : κ) (change : κ → α → α)
    (table : Table κ α) :
    get? key (table.map fun entry => (entry.1, change entry.1 entry.2)) =
      (get? key table).map (change key) := by
  induction table with
  | nil => rfl
  | cons entry rest ih =>
      by_cases same : entry.1 = key
      · simp [get?, same]
      · simpa [get?, same] using ih

end Table

namespace Disk

variable (disk : Disk) (number : Nat) (change : Bytes → Bytes)

theorem node?_amend (location : Location) :
    (disk.amend number change).node? location =
      (disk.node? location).map (amendNode number change) :=
  Table.get?_mapValues location (fun _ => amendNode number change) disk.nodes

theorem node?_amend_of_file {disk : Disk} {location : Location} {present : Nat} {content : Bytes}
    (found : (disk.amend number change).node? location = some (.file present content)) :
    ∃ before, disk.node? location = some (.file present before) := by
  rw [node?_amend] at found
  obtain ⟨node, there, amended⟩ := Option.map_eq_some_iff.mp found
  cases node with
  | file kept before =>
      obtain ⟨rfl, -⟩ := Node.file.inj amended
      exact ⟨before, there⟩
  | _ => simp [amendNode] at amended

theorem Numbered.amend {disk : Disk} (numbered : disk.Numbered) :
    (disk.amend number change).Numbered where
  ascending := by
    have keys : (disk.amend number change).nodes.keys = disk.nodes.keys := by
      simp [Disk.amend, Table.keys]
    rw [keys]
    exact numbered.ascending
  fresh := by
    intro location present content found
    obtain ⟨before, there⟩ := node?_amend_of_file number change found
    exact numbered.fresh there
  own := by
    intro location other present content kept found foundToo
    obtain ⟨before, there⟩ := node?_amend_of_file number change found
    obtain ⟨beforeToo, thereToo⟩ := node?_amend_of_file number change foundToo
    exact numbered.own there thereToo

def contentIn? (other : Nat) : Node → Option Bytes
  | .file present content => if present = other then some content else none
  | _ => none

theorem contentOf?_eq (other : Nat) :
    disk.contentOf? other =
      ((disk.nodes.findSome? fun entry => contentIn? other entry.2) <|>
        disk.unlinked.get? other) := by
  have search : (fun entry : Location × Node => contentIn? other entry.2) = fun entry =>
      match entry.2 with
      | .file present content => if present = other then some content else none
      | _ => none := by
    funext entry
    rcases entry with ⟨location, node⟩
    cases node <;> rfl
  rw [search]
  rfl

def changed (other : Nat) : Bytes → Bytes :=
  if other = number then change else id

theorem contentIn?_amendNode (other : Nat) (node : Node) :
    contentIn? other (amendNode number change node) =
      (contentIn? other node).map (changed number change other) := by
  cases node with
  | file present content =>
      by_cases meant : present = other
      · subst meant
        by_cases same : present = number <;> simp [contentIn?, amendNode, changed, same]
      · simp [contentIn?, amendNode, meant]
  | _ => rfl

theorem unlinked_amend (other : Nat) :
    (disk.amend number change).unlinked.get? other =
      (disk.unlinked.get? other).map (changed number change other) := by
  have entries : (disk.amend number change).unlinked =
      disk.unlinked.map fun entry => (entry.1, changed number change entry.1 entry.2) := by
    simp only [amend]
    apply List.map_congr_left
    intro entry _
    by_cases same : entry.1 = number <;> simp [changed, same]
  rw [entries]
  exact Table.get?_mapValues other (changed number change) disk.unlinked

theorem contentOf?_amend (other : Nat) :
    (disk.amend number change).contentOf? other =
      (disk.contentOf? other).map (changed number change other) := by
  have nodes : ((disk.amend number change).nodes.findSome? fun entry => contentIn? other entry.2) =
      (disk.nodes.findSome? fun entry => contentIn? other entry.2).map
        (changed number change other) := by
    simp only [amend, List.findSome?_map, List.map_findSome?]
    congr 1
    funext entry
    exact contentIn?_amendNode number change other entry.2
  rw [contentOf?_eq, contentOf?_eq, nodes, unlinked_amend]
  cases disk.nodes.findSome? fun entry => contentIn? other entry.2 <;> rfl

theorem contentOf?_append (content : Bytes) (other : Nat) :
    (disk.append number content).contentOf? other =
      (disk.contentOf? other).map fun before =>
        before ++ if other = number then content else [] := by
  rw [append, contentOf?_amend]
  congr 1
  funext before
  by_cases same : other = number <;> simp [changed, same]

end Disk

namespace External

/-- The notes of an action go to the files of a logger that has nothing else to write. -/
def journalOf (logger : Log.Logger) : Journal World :=
  logger.settled.journal appendLine

/-- What lines that go to the files of a logger do not change, a note does not change. -/
theorem journalOf_induction {logger : Log.Logger} (Holds : World → Prop) (note : Note)
    {world : World} (start : Holds world)
    (step : ∀ handle line current, .file handle ∈ logger.sinks → Holds current →
      Holds (appendLine handle line current)) : Holds (journalOf logger note world) := by
  have known : ∀ delivery ∈ (logger.settled.log note.level note.target note.message).outbox,
      .file delivery.1 ∈ logger.sinks := by
    intro delivery member
    rcases Log.Logger.outbox_log member with earlier | registered
    · simp [Log.Logger.settled] at earlier
    · exact registered
  -- What waits for the files is written line by line.
  simp only [journalOf, Log.Logger.journal, Log.Logger.flush]
  revert known
  induction (logger.settled.log note.level note.target note.message).outbox generalizing world with
  | nil => exact fun _ => start
  | cons delivery rest ih =>
      intro known
      refine ih ?_ fun other member => known other (List.mem_cons_of_mem _ member)
      exact step _ _ _ (known delivery List.mem_cons_self) start

def loggedDisk : Disk :=
  Disk.empty.createAt ["work", "run.log"] []

def fileLogger (level : Log.Level) : Log.Logger :=
  (Log.Logger.new level 0).addSink (.file 0)

end External

end Bootstrap
