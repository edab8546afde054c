import HartTraps.Bytes.Endian

/-!
# Fixed-width binary records

A type with a `Binary` instance has a byte form of its own: numbers are little-endian at their full
width, alternatives are numbered in 32 bits, flags and the presence of an optional value take one
byte, and texts and lists are preceded by their 64-bit length. A reader takes a value off the front
of the input and leaves the rest.
-/

namespace HartTraps

/-- Why bytes are not the form of a value. -/
inductive DecodeError where
  /-- The input ends within the next `wanted` bytes. -/
  | endOfInput (wanted : Nat)
  /-- A flag byte is neither 0 nor 1. -/
  | invalidFlag
  /-- The byte before an optional value is neither 0 nor 1. -/
  | invalidPresence
  /-- The bytes of a text are not UTF-8. -/
  | invalidText
  /-- No alternative has this number. -/
  | unknownAlternative
  deriving DecidableEq

/-- The name of the error in reports. -/
def DecodeError.name : DecodeError → String
  | endOfInput _ => "Io"
  | invalidFlag => "InvalidBoolEncoding"
  | invalidPresence => "InvalidTagEncoding"
  | invalidText => "InvalidUtf8Encoding"
  | unknownAlternative => "Custom"

/-- Whether memory has no room for the missing bytes: a host has less than 32 gibibytes. Only the
length of a text asks for so many bytes at once. -/
def DecodeError.exceedsMemory : DecodeError → Bool
  | endOfInput wanted => 8 * Endian.span 4 ≤ wanted
  | _ => false

/-- Whether no memory could have room for the missing bytes: an object takes up less than half of
the 64-bit addresses. -/
def DecodeError.exceedsAddresses : DecodeError → Bool
  | endOfInput wanted => Endian.span 8 / 2 ≤ wanted
  | _ => false

/-- A reader takes a value off the front of its input or fails. -/
abbrev Reader := StateT (List UInt8) (Except DecodeError)

namespace Reader

/-- Takes the next `n` bytes. -/
def bytes (n : Nat) : Reader (List UInt8) := fun input =>
  let front := input.take n
  if front.length = n then .ok (front, input.drop n) else .error (.endOfInput n)

/-- Takes a little-endian number of `k` bytes. -/
def number (k : Nat) : Reader Nat :=
  Endian.number <$> bytes k

/-- Takes the same kind of value `n` times. -/
def times {α : Type} (item : Reader α) : Nat → Reader (List α)
  | 0 => pure []
  | n + 1 => do
    let x ← item
    let xs ← times item n
    return x :: xs

/-- Takes the byte before an optional value and then, if it is 1, the value. -/
def optional {α : Type} (item : Reader α) : Reader (Option α) := do
  match ← number 1 with
  | 0 => return none
  | 1 => return some (← item)
  | _ => throw .invalidPresence

end Reader

/-- A byte form that can be written and read back. -/
class Binary (α : Type) where
  write : α → List UInt8
  read : Reader α

namespace Binary

/-- The 32-bit number of an alternative. -/
def writeAlternative (index : Nat) : List UInt8 :=
  Endian.bytes 4 index

/-- Reads the number of an alternative and picks it from the list in declaration order. -/
def readAlternative {α : Type} (alternatives : List (Reader α)) : Reader α := do
  match alternatives[← Reader.number 4]? with
  | some item => item
  | none => throw .unknownAlternative

instance : Binary Word where
  write w := Endian.bytes 8 w.toNat
  read := BitVec.ofNat 64 <$> Reader.number 8

instance : Binary (BitVec 32) where
  write w := Endian.bytes 4 w.toNat
  read := BitVec.ofNat 32 <$> Reader.number 4

instance : Binary (BitVec 16) where
  write w := Endian.bytes 2 w.toNat
  read := BitVec.ofNat 16 <$> Reader.number 2

instance : Binary Bool where
  write b := Endian.bytes 1 b.toNat
  read := do
    match ← Reader.number 1 with
    | 0 => return false
    | 1 => return true
    | _ => throw .invalidFlag

instance {α : Type} [Binary α] : Binary (Option α) where
  write
    | none => Endian.bytes 1 0
    | some x => Endian.bytes 1 1 ++ write x
  read := Reader.optional read

instance {α β : Type} [Binary α] [Binary β] : Binary (α × β) where
  write p := write p.1 ++ write p.2
  read := do
    let a ← read
    let b ← read
    return (a, b)

instance {α : Type} [Binary α] : Binary (List α) where
  write xs := Endian.bytes 8 xs.length ++ xs.flatMap write
  read := do Reader.times read (← Reader.number 8)

instance : Binary String where
  write s := Endian.bytes 8 s.toUTF8.size ++ s.toUTF8.data.toList
  read := do
    let front ← Reader.bytes (← Reader.number 8)
    match String.fromUTF8? ⟨front.toArray⟩ with
    | some s => return s
    | none => throw .invalidText

instance : Binary ByteOrder where
  write
    | .little => writeAlternative 0
    | .big => writeAlternative 1
  read := readAlternative [pure .little, pure .big]

end Binary

end HartTraps
