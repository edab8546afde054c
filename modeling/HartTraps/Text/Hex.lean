/-!
# Hexadecimal text

Numbers are written in lower-case hexadecimal, either as short as possible behind `0x` or as two
digits per byte. `Hex.bytes?` reads the second form back.
-/

namespace HartTraps.Hex

/-- The shortest digits of `n`, without a marker in front. -/
def digits (n : Nat) : String :=
  String.ofList (Nat.toDigits 16 n)

/-- The shortest digits of `n` behind `0x`. -/
def number (n : Nat) : String :=
  "0x" ++ digits n

/-- A byte is two digits, the high half first. -/
def byteDigits (b : UInt8) : List Char :=
  [Nat.digitChar (b.toNat / 16), Nat.digitChar (b.toNat % 16)]

/-- A byte string is the digit pairs of its bytes in order. -/
def bytes (bs : List UInt8) : String :=
  String.ofList (bs.flatMap byteDigits)

theorem length_byteDigits (bs : List UInt8) : (bs.flatMap byteDigits).length = 2 * bs.length := by
  simp [List.length_flatMap, List.map_const', byteDigits, Nat.mul_comm]

/-- The value of a hexadecimal digit of either case. -/
def digitValue? (c : Char) : Option Nat :=
  if '0' ≤ c ∧ c ≤ '9' then some (c.toNat - '0'.toNat)
  else if 'a' ≤ c ∧ c ≤ 'f' then some (c.toNat - 'a'.toNat + 10)
  else if 'A' ≤ c ∧ c ≤ 'F' then some (c.toNat - 'A'.toNat + 10)
  else none

/-- Reads digit pairs as bytes; any other text, or an odd number of digits, is refused. -/
def bytes? : List Char → Option (List UInt8)
  | [] => some []
  | [_] => none
  | high :: low :: rest => do
    let h ← digitValue? high
    let l ← digitValue? low
    let bs ← bytes? rest
    return UInt8.ofNat (16 * h + l) :: bs

end HartTraps.Hex
