import Bootstrap.Proofs.Discovery
import Bootstrap.Proofs.Recording
import Bootstrap.Toy.World

/-!
Toy tools answer like an oracle, whatever the world in memory has been through.
-/

namespace Bootstrap

namespace Toy

def oracle (hostFailure : Option String) (unavailable : Bool) : Oracle Engine Value where
  host := hostAnswer hostFailure
  instantiate :=
    if unavailable then .error (.instantiate "engine unavailable") else .ok Engine.fresh
  bindInput := Engine.bindInput
  clearOutput := Engine.clearOutput
  output := Engine.output
  load := fun bytes engine => engine.load bytes
  invoke := fun exportName engine => engine.invoke exportName
  marshal := fun _ value => Engine.marshal value

/-- Toy engines are their own states; the files are among those that are allowed. -/
structure Holds (Allowed : FileMap → List (Path × FileError) → Prop) (world : World)
    (live : List (Engine × Engine)) : Prop where
  same : ∀ pair ∈ live, pair.1 = pair.2
  allowed : Allowed world.files world.faults

def MayRead (Allowed : FileMap → List (Path × FileError) → Prop) (path : Path)
    (answer : Except FileError Bytes) : Prop :=
  ∃ world : World, Allowed world.files world.faults ∧ answer = world.read path

variable {Allowed : FileMap → List (Path × FileError) → Prop} {world : World}
  {live : List (Engine × Engine)}

theorem Holds.head {engine state : Engine} (holds : Holds Allowed world ((engine, state) :: live)) :
    engine = state :=
  holds.same _ List.mem_cons_self

theorem Holds.tail {pair : Engine × Engine} (holds : Holds Allowed world (pair :: live)) :
    Holds Allowed world live :=
  ⟨fun other member => holds.same other (List.mem_cons_of_mem _ member), holds.allowed⟩

theorem Holds.cons (holds : Holds Allowed world live) (engine : Engine) :
    Holds Allowed world ((engine, engine) :: live) where
  same := by
    intro pair member
    rcases List.mem_cons.mp member with rfl | later
    · rfl
    · exact holds.same pair later
  allowed := holds.allowed

theorem deterministic (hostFailure : Option String) (unavailable : Bool)
    (Allowed : FileMap → List (Path × FileError) → Prop) :
    Deterministic (environment hostFailure unavailable) (oracle hostFailure unavailable)
      (MayRead Allowed) (Uncounted (Holds Allowed)) where
  logsApart := fun _ _ _ _ holds => holds
  read := fun path ledger _ _ world holds =>
    ⟨ledger.add _, ⟨⟨world, holds.allowed, rfl⟩, rfl⟩, holds⟩
  host := fun unit ledger _ _ world holds =>
    ⟨ledger.add [.host unit], ⟨rfl, rfl⟩, holds.same, holds.allowed⟩
  instantiate := by
    intro ledger _ _ world holds
    cases unavailable with
    | true => exact ⟨ledger.add [.engine], ⟨rfl, rfl⟩, holds.same, holds.allowed⟩
    | false =>
        have held : Holds Allowed world ledger.live := holds
        exact ⟨(ledger.add [.engine]).hold Engine.fresh Engine.fresh, ⟨Engine.fresh, rfl, rfl⟩,
          (held.cons Engine.fresh).same, held.allowed⟩
  bindInput := by
    rintro input engine state world ledger holds
    obtain rfl := holds.head
    exact holds.tail.cons _
  clearOutput := by
    rintro engine state world ledger holds
    obtain rfl := holds.head
    exact holds.tail.cons _
  output := by
    rintro engine state world ledger holds
    obtain rfl := holds.head
    rfl
  marshal := by
    rintro engine state value world ledger holds
    rfl
  load := by
    rintro module engine state ledger _ _ world holds
    obtain rfl := holds.head
    exact ⟨_, ⟨rfl, rfl⟩, holds.tail.cons _⟩
  invoke := by
    rintro exportName engine state ledger _ _ world holds
    obtain rfl := holds.head
    exact ⟨_, ⟨rfl, rfl⟩, holds.tail.cons _⟩
  release := by
    rintro engine state ledger _ _ world holds
    exact ⟨ledger, rfl, holds.tail⟩

/-- The files that the world starts with, which toy tools never change. -/
def Frozen (files : FileMap) (faults : List (Path × FileError)) :
    World → List (Engine × Engine) → Prop :=
  Holds fun current failing => current = files ∧ failing = faults

def content (files : FileMap) (faults : List (Path × FileError)) : Content where
  read := fun path => (World.start files faults).read path
  isFile := fun path => files.isFile path
  list := fun path => files.list path

theorem settled (hostFailure : Option String) (unavailable : Bool) (files : FileMap)
    (faults : List (Path × FileError)) :
    Settled (environment hostFailure unavailable) (oracle hostFailure unavailable)
      (content files faults) (Uncounted (Frozen files faults)) where
  deterministic :=
    { deterministic hostFailure unavailable fun current failing =>
        current = files ∧ failing = faults with
      read := by
        intro path ledger _ _ world holds
        obtain ⟨rfl, rfl⟩ := holds.allowed
        exact ⟨ledger.add _, ⟨rfl, rfl⟩, holds⟩ }
  isFile := by
    intro path ledger _ _ world holds
    obtain ⟨rfl, rfl⟩ := holds.allowed
    exact ⟨ledger, ⟨rfl, rfl⟩, holds⟩
  list := by
    intro path ledger _ _ world holds
    obtain ⟨rfl, rfl⟩ := holds.allowed
    exact ⟨ledger, ⟨rfl, rfl⟩, holds⟩

theorem frozen_start (files : FileMap) (faults : List (Path × FileError)) :
    Frozen files faults (World.start files faults) [] :=
  ⟨by simp, rfl, rfl⟩

end Toy

end Bootstrap
