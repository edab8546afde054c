import HartTraps.Bytes.Endian

/-!
# Page sizes and relocation

A program that moves to another page keeps the offsets of its addresses and replaces the rest by
the base of the new page.
-/

namespace HartTraps

/-- The sizes of page into which a program can move. -/
inductive PageSize where
  | kilo
  | mega
  | giga
  | tera
  deriving DecidableEq

namespace PageSize

/-- The name of the size in reports. -/
def name : PageSize → String
  | kilo => "Kilo"
  | mega => "Mega"
  | giga => "Giga"
  | tera => "Tera"

/-- The number of a size in requests. -/
def code : PageSize → Word
  | kilo => 0
  | mega => 1
  | giga => 2
  | tera => 3

/-- The size with the given number. -/
def ofCode? (code : Word) : Option PageSize :=
  match code.toNat with
  | 0 => some kilo
  | 1 => some mega
  | 2 => some giga
  | 3 => some tera
  | _ => none

/-- How many low bits of an address lie inside a page. -/
def offsetBits : PageSize → Nat
  | kilo => 12
  | mega => 21
  | giga => 30
  | tera => 39

/-- The bits of an address that lie inside a page. -/
def offsetMask (size : PageSize) : Word :=
  (1 <<< size.offsetBits) - 1

/-- The address at the same offset in the page with base `base`. -/
def relocate (size : PageSize) (address base : Word) : Word :=
  (address &&& size.offsetMask) ||| base

@[simp] theorem ofCode?_code (size : PageSize) : ofCode? size.code = some size := by
  cases size <;> rfl

end PageSize

end HartTraps
