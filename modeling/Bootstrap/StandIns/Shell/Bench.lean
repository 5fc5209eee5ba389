import Bootstrap.Disk.Access
import Bootstrap.StandIns.Shell.Script

/-!
What a running tool works with: a disk, open channels, and descriptors that stand for channels.
-/

namespace Bootstrap

namespace Shell

/-- Something open. What is written to a sink stays there for those who read it later. -/
inductive Channel where
  | source (content : Bytes)
  | sink (content : Bytes)
  | file (number offset : Nat) (opening : Opening)
  | directory
  | null
  deriving DecidableEq, Repr

/-- `refused` says that something could not be written where it was meant to go. -/
structure Bench where
  disk : Disk
  channels : List Channel
  descriptors : Table Nat Nat
  refused : Bool
  deriving Repr

abbrev Tool := StateM Bench

namespace Opening

def reads : Opening → Bool
  | .input => true
  | .both => true
  | _ => false

def writes (opening : Opening) : Bool :=
  opening ≠ .input

end Opening

namespace Bench

def channel? (bench : Bench) (descriptor : Nat) : Option (Nat × Channel) := do
  let index ← bench.descriptors.get? descriptor
  let channel ← bench.channels[index]?
  some (index, channel)

def setChannel (bench : Bench) (index : Nat) (channel : Channel) : Bench :=
  { bench with channels := bench.channels.set index channel }

def attach (bench : Bench) (descriptor : Nat) (channel : Channel) : Bench :=
  { bench with
    channels := bench.channels ++ [channel]
    descriptors := bench.descriptors.insert descriptor bench.channels.length }

def contentOf (bench : Bench) (number : Nat) : Bytes :=
  (bench.disk.contentOf? number).getD []

def pending (bench : Bench) (descriptor : Nat) : Except OsError Bytes :=
  match bench.channel? descriptor with
  | some (_, .source content) => .ok content
  | some (_, .file number offset opening) =>
      if opening.reads then .ok ((bench.contentOf number).drop offset) else .error .badDescriptor
  | some (_, .directory) => .error .isADirectory
  | some (_, .null) => .ok []
  | _ => .error .badDescriptor

def skip (bench : Bench) (descriptor count : Nat) : Bench :=
  match bench.channel? descriptor with
  | some (index, .source content) => bench.setChannel index (.source (content.drop count))
  | some (index, .file number offset opening) =>
      bench.setChannel index (.file number (offset + count) opening)
  | _ => bench

/-- A tool that reads in blocks leaves the rest to others only where it can wind back. -/
def canRewind (bench : Bench) (descriptor : Nat) : Bool :=
  match bench.channel? descriptor with
  | some (_, .file _ _ _) => true
  | _ => false

/-- Content with bytes written over it from an offset; a gap before the offset is filled. -/
def overwrite (content : Bytes) (offset : Nat) (bytes : Bytes) : Bytes :=
  content.take offset ++ List.replicate (offset - content.length) 0 ++ bytes ++
    content.drop (offset + bytes.length)

def canWrite (bench : Bench) (descriptor : Nat) : Bool :=
  match bench.channel? descriptor with
  | some (_, .sink _) => true
  | some (_, .null) => true
  | some (_, .file _ _ opening) => opening.writes
  | _ => false

def emit (bench : Bench) (descriptor : Nat) (bytes : Bytes) : Bench :=
  if bytes.isEmpty then bench
  else if bench.canWrite descriptor then
    match bench.channel? descriptor with
    | some (index, .sink content) => bench.setChannel index (.sink (content ++ bytes))
    | some (index, .file number offset opening) =>
        let content := bench.contentOf number
        let start := if opening = .append then content.length else offset
        { bench with disk := bench.disk.refill number (overwrite content start bytes) }.setChannel
          index (.file number (start + bytes.length) opening)
    | _ => bench
  else { bench with refused := true }

def streamOf? (path : String) : Option Nat :=
  match path with
  | "/dev/stdin" => some 0
  | "/dev/stdout" => some 1
  | "/dev/stderr" => some 2
  | "/dev/fd/0" => some 0
  | "/dev/fd/1" => some 1
  | "/dev/fd/2" => some 2
  | _ => none

end Bench

namespace Tool

def write (descriptor : Nat) (octets : Octets) : Tool Unit :=
  modify fun bench => bench.emit descriptor (Octets.toBytes octets)

def writeText (descriptor : Nat) (text : String) : Tool Unit :=
  write descriptor (Octets.ofText text)

def emit (bytes : Bytes) : Tool Unit :=
  modify fun bench => bench.emit 1 bytes

def takeInput : Tool (Except OsError Bytes) := do
  let found := (← get).pending 0
  match found with
  | .ok bytes => modify fun bench => bench.skip 0 bytes.length
  | .error _ => pure ()
  return found

/-- Takes some of the standard input, and drops the rest if it cannot be wound back. -/
def takeSome (choose : Bytes → Bytes) (used : Bytes → Nat) : Tool (Except OsError Bytes) := do
  let bench ← get
  match bench.pending 0 with
  | .ok bytes =>
      modify fun bench => bench.skip 0 (if bench.canRewind 0 then used bytes else bytes.length)
      return .ok (choose bytes)
  | .error error => return .error error

def lineEnd : UInt8 := 10

def firstLine : Bytes → Bytes
  | [] => []
  | byte :: rest => if byte = lineEnd then [byte] else byte :: firstLine rest

def takeLine : Tool Bytes := do
  match (← get).pending 0 with
  | .ok bytes =>
      let line := firstLine bytes
      modify fun bench => bench.skip 0 line.length
      return line
  | .error _ => return []

def complain (tool text : String) : Tool Unit :=
  writeText 2 (tool ++ ": " ++ text ++ "\n")

def path (octets : Octets) : Path :=
  ⟨Octets.toText octets⟩

def read (operand : Octets) : Tool (Except OsError Bytes) := do
  let bench ← get
  match Bench.streamOf? (Octets.toText operand) with
  | some descriptor =>
      match bench.channel? descriptor with
      | some (_, .file number _ _) => return .ok (bench.contentOf number)
      | some (_, .source content) =>
          modify fun bench => bench.skip descriptor content.length
          return .ok content
      | some (_, .directory) => return .error .isADirectory
      | some _ => return .ok []
      | none => return .error .noEntry
  | none => return bench.disk.read (path operand)

def onDisk (step : Disk → Except OsError Disk) : Tool (Option OsError) := do
  let bench ← get
  match step bench.disk with
  | .ok disk =>
      set { bench with disk := disk }
      return none
  | .error error => return some error

/-- Performs a change of the disk that a refusal can leave half done. -/
def performOnDisk (step : Disk → Except OsError Unit × Disk) : Tool (Option OsError) := do
  let bench ← get
  let (made, disk) := step bench.disk
  set { bench with disk := disk }
  match made with
  | .ok () => return none
  | .error error => return some error

def finished (name : String) (step : Tool Nat) : Tool Nat := do
  modify fun bench => { bench with refused := false }
  let status ← step
  if (← get).refused then
    complain name ("write error: " ++ OsError.reason .badDescriptor)
    return 1
  else return status

end Tool

end Shell

end Bootstrap
