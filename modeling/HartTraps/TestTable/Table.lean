import HartTraps.Bench.Error

/-!
# Test tables

The bytes of a test table are those of its records, one after the other.
-/

namespace HartTraps.TestTable

/-- The records of a table. A table that ends inside a record is refused with its length. -/
def decode (order : ByteOrder) (bytes : List UInt8) : Except BenchError (List TestCase) :=
  match TestCase.ofTable? order bytes with
  | some cases => .ok cases
  | none => .error (.truncatedTable bytes.length)

end HartTraps.TestTable
