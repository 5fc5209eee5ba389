import Bootstrap.Compiler
import Bootstrap.Stage

/-!
Built generations: where their bytes come from and the fingerprint they are logged with.
-/

namespace Bootstrap

inductive Origin where
  | snapshot
  | host
  | compiledBy (stage : Stage)
  deriving DecidableEq, Repr

namespace Origin

def text : Origin → String
  | .snapshot => "snapshot"
  | .host => "host-built"
  | .compiledBy stage => "self-built by " ++ stage.name

def toJson : Origin → Json
  | .snapshot => .object [("origin", .string "snapshot")]
  | .host => .object [("origin", .string "host_built")]
  | .compiledBy stage =>
      .object [("origin", .string "self_built"), ("compiler", .string stage.name)]

end Origin

/-- One step of the FNV-1a hash: the byte goes in by exclusive or, then comes the multiplication by
the 64-bit FNV prime. -/
def fingerprintStep (hash : UInt64) (byte : UInt8) : UInt64 :=
  (hash ^^^ byte.toUInt64) * 0x100000001b3

def fingerprint (bytes : Bytes) : UInt64 :=
  bytes.foldl fingerprintStep 0xcbf29ce484222325

structure Artifact where
  stage : Stage
  origin : Origin
  bytes : Bytes
  deriving DecidableEq, Repr

namespace Artifact

def size (artifact : Artifact) : Nat :=
  artifact.bytes.length

def digest (artifact : Artifact) : UInt64 :=
  fingerprint artifact.bytes

def digestText (digest : UInt64) : String :=
  Numeral.hex 16 digest.toNat

def line (artifact : Artifact) : String :=
  artifact.stage.name ++ ": " ++ artifact.origin.text ++ ", " ++ toString artifact.size ++
    " bytes, fingerprint " ++ digestText artifact.digest

end Artifact

end Bootstrap
