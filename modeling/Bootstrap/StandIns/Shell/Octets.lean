import Bootstrap.Text.Utf8

/-!
Byte strings as lists of characters below 256, the texts that a shell works on.
-/

namespace Bootstrap

namespace Shell

abbrev Octets := List Char

namespace Octets

def ofBytes (bytes : Bytes) : Octets :=
  bytes.map fun byte => Char.ofNat byte.toNat

def toBytes (octets : Octets) : Bytes :=
  octets.map fun character => character.toNat.toUInt8

def ofText (text : String) : Octets :=
  ofBytes (Utf8.encode text)

def toText (octets : Octets) : String :=
  Utf8.decodeLossy (toBytes octets)

/-- The order of byte strings: the first difference decides, and what goes on is greater. -/
def isAtMost : Octets → Octets → Bool
  | [], _ => true
  | _ :: _, [] => false
  | left :: lefts, right :: rights =>
      if left = right then isAtMost lefts rights else decide (left.toNat < right.toNat)

end Octets

end Shell

end Bootstrap
