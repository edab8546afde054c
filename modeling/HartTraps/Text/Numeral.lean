import HartTraps.Bytes.Endian
import HartTraps.Text.Hex

/-!
# Numerals

A numeral is an optional plus sign and one or more digits of its base. Its value has to lie below a
given bound, so that it fits a machine word of known width.
-/

namespace HartTraps.Numeral

/-- The value of digits in a base, if all of them are digits. -/
def digits? (base : Nat) (cs : List Char) : Option Nat :=
  cs.foldl (fun value c => do
    let v ← value
    let d ← Hex.digitValue? c
    if d < base then return base * v + d else none) (some 0)

/-- Drops one plus sign from the front. -/
def dropPlus : List Char → List Char
  | '+' :: cs => cs
  | cs => cs

/-- The value of a numeral in a base, if there are digits and the value lies below `bound`. -/
def value? (base bound : Nat) (cs : List Char) : Option Nat :=
  let ds := dropPlus cs
  if ds.isEmpty then none
  else (digits? base ds).filter (· < bound)

/-- A word in decimal, or in hexadecimal behind `0x`; underscores are ignored. -/
def word? (cs : List Char) : Option Word :=
  let value :=
    match cs.filter (· ≠ '_') with
    | '0' :: 'x' :: hex => value? 16 (Endian.span 8) hex
    | decimal => value? 10 (Endian.span 8) decimal
  value.map (BitVec.ofNat 64)

end HartTraps.Numeral
