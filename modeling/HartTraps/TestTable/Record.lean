import HartTraps.Bytes.Endian

/-!
# Records of a test table

A record is three words: two operands and a tag. Only the low 21 bits of the tag, the label, name a
routine, so a table works wherever the test program is mapped.
-/

namespace HartTraps

/-- The part of a tag that survives a move of the test program: its offset in a 2 MiB page. -/
abbrev Label := BitVec 21

namespace Label

/-- The label of a tag. -/
def ofTag (tag : Word) : Label := tag.setWidth 21

/-- The label as an address offset. -/
def offset (label : Label) : Word := label.setWidth 64

/-- The address bits that a label stands for. -/
def mask : Word := 0x1FFFFF

end Label

/-- One case of a test table. -/
structure TestCase where
  /-- The target address, the page base to return to or the page table root. -/
  address : Word
  /-- The data, the page type or the address space. -/
  value : Word
  tag : Word
  deriving DecidableEq

namespace TestCase

/-- The label that names the routine of the case. -/
def label (case : TestCase) : Label :=
  Label.ofTag case.tag

/-- The address of the case's routine when the program runs at `pc`. -/
def entryIn (case : TestCase) (pc : Word) : Word :=
  (pc &&& ~~~Label.mask) ||| case.label.offset

/-- The size of a record in bytes. -/
def recordSize : Nat := 24

/-- The record with the given bytes. -/
def ofBytes (order : ByteOrder) (bytes : List UInt8) : TestCase :=
  { address := order.word (bytes.take 8)
    value := order.word ((bytes.drop 8).take 8)
    tag := order.word (bytes.drop 16) }

/-- The bytes of a record. -/
def bytes (order : ByteOrder) (case : TestCase) : List UInt8 :=
  order.bytes case.address ++ order.bytes case.value ++ order.bytes case.tag

/-- The first `n` records of a byte string. -/
def records (order : ByteOrder) : Nat → List UInt8 → List TestCase
  | 0, _ => []
  | n + 1, bytes => ofBytes order (bytes.take recordSize) :: records order n (bytes.drop recordSize)

/-- The records of a test table, which must fill it exactly. -/
def ofTable? (order : ByteOrder) (bytes : List UInt8) : Option (List TestCase) :=
  if bytes.length % recordSize = 0 then some (records order (bytes.length / recordSize) bytes) else none

@[simp] theorem ofBytes_bytes (order : ByteOrder) (case : TestCase) :
    ofBytes order (case.bytes order) = case := by
  have h (w : Word) (rest : List UInt8) : (order.bytes w ++ rest).take 8 = order.bytes w := by
    simp
  have d (w : Word) (rest : List UInt8) : (order.bytes w ++ rest).drop 8 = rest := by
    simp
  have e : (16 : Nat) = 8 + 8 := rfl
  simp only [ofBytes, bytes, List.append_assoc, h, d, e, ← List.drop_drop, ByteOrder.word_bytes]

end TestCase

end HartTraps
