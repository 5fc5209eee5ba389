import Bootstrap.Log.Record
import Bootstrap.Text.Blank

/-!
A ring buffer of log records: a full ring makes room by dropping its oldest record.
-/

namespace Bootstrap

namespace Log

structure Ring where
  capacity : Nat
  records : List Record
  dropped : Nat
  deriving DecidableEq, Repr

namespace Ring

def empty (capacity : Nat) : Ring :=
  ⟨capacity, [], 0⟩

def push (ring : Ring) (record : Record) : Ring :=
  if ring.capacity ≤ ring.records.length then
    { ring with records := ring.records.drop 1 ++ [record], dropped := ring.dropped + 1 }
  else { ring with records := ring.records ++ [record] }

def clear (ring : Ring) : Ring :=
  { ring with records := [], dropped := 0 }

def mentions (ring : Ring) (needle : String) : Bool :=
  ring.records.any fun record => Text.contains record.message needle

def dump (ring : Ring) : String :=
  "\n".intercalate (ring.records.map Record.format)

end Ring

end Log

end Bootstrap
