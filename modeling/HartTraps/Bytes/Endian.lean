/-!
# Words as bytes

A machine word is eight bytes, lowest first or highest first. `ByteOrder.word_bytes` says that
reading a word's bytes in the order in which they were written gives the word back, and
`ByteOrder.bytes_word` that any eight bytes are those of the word that is read from them.
-/

namespace HartTraps

/-- Addresses, operands and register contents are 64-bit words with wrapping arithmetic. -/
abbrev Word := BitVec 64

/-- The order in which a word's bytes are laid out. -/
inductive ByteOrder where
  /-- Lowest byte first. -/
  | little
  /-- Highest byte first. -/
  | big
  deriving DecidableEq

namespace Endian

/-- The `k` low bytes of `n`, lowest first. -/
def bytes : Nat → Nat → List UInt8
  | 0, _ => []
  | k + 1, n => UInt8.ofNat n :: bytes k (n / 256)

/-- How many numbers `k` bytes can hold. -/
def span : Nat → Nat
  | 0 => 1
  | k + 1 => 256 * span k

/-- The number whose bytes, lowest first, are given. -/
def number : List UInt8 → Nat
  | [] => 0
  | b :: bs => b.toNat + 256 * number bs

@[simp] theorem length_bytes (k n : Nat) : (bytes k n).length = k := by
  induction k generalizing n with
  | zero => rfl
  | succ k ih => simp [bytes, ih]

theorem number_bytes (k n : Nat) : number (bytes k n) = n % span k := by
  induction k generalizing n with
  | zero => simp [bytes, number, span, Nat.mod_one]
  | succ k ih =>
    rw [bytes, number, ih, span, Nat.mod_mul]
    simp [UInt8.toNat_ofNat']

theorem bytes_number (bs : List UInt8) : bytes bs.length (number bs) = bs := by
  induction bs with
  | nil => rfl
  | cons b bs ih =>
    have hb := b.toNat_lt
    have low : UInt8.ofNat (b.toNat + 256 * number bs) = b := by
      apply UInt8.toNat_inj.mp
      rw [UInt8.toNat_ofNat']
      omega
    have high : (b.toNat + 256 * number bs) / 256 = number bs := by omega
    rw [List.length_cons, bytes, number, low, high, ih]

theorem number_lt_span (bs : List UInt8) : number bs < span bs.length := by
  induction bs with
  | nil => exact Nat.zero_lt_one
  | cons b bs ih =>
    have hb := b.toNat_lt
    rw [number, List.length_cons, span]
    omega

end Endian

namespace ByteOrder

/-- The name of the order in reports. -/
def name : ByteOrder → String
  | little => "Little"
  | big => "Big"

/-- The eight bytes of a word. -/
def bytes : ByteOrder → Word → List UInt8
  | little, w => Endian.bytes 8 w.toNat
  | big, w => (Endian.bytes 8 w.toNat).reverse

/-- The word with the given bytes. -/
def word : ByteOrder → List UInt8 → Word
  | little, bs => BitVec.ofNat 64 (Endian.number bs)
  | big, bs => BitVec.ofNat 64 (Endian.number bs.reverse)

@[simp] theorem length_bytes (order : ByteOrder) (w : Word) : (order.bytes w).length = 8 := by
  cases order <;> simp [bytes]

@[simp] theorem word_bytes (order : ByteOrder) (w : Word) : order.word (order.bytes w) = w := by
  have h : BitVec.ofNat 64 (Endian.number (Endian.bytes 8 w.toNat)) = w := by
    apply BitVec.eq_of_toNat_eq
    have whole : Endian.span 8 = 18446744073709551616 := rfl
    have bound := w.isLt
    rw [Endian.number_bytes, BitVec.toNat_ofNat, whole]
    omega
  cases order <;> simp [word, bytes, h]

theorem bytes_word (order : ByteOrder) {bs : List UInt8} (eight : bs.length = 8) :
    order.bytes (order.word bs) = bs := by
  have h (cs : List UInt8) (length : cs.length = 8) :
      Endian.bytes 8 (BitVec.ofNat 64 (Endian.number cs)).toNat = cs := by
    have bound : Endian.number cs < Endian.span cs.length := Endian.number_lt_span cs
    rw [length] at bound
    have whole : Endian.span 8 = 2 ^ 64 := rfl
    rw [BitVec.toNat_ofNat, ← whole, Nat.mod_eq_of_lt bound, ← length, Endian.bytes_number]
  cases order with
  | little => exact h bs eight
  | big =>
    show (Endian.bytes 8 (BitVec.ofNat 64 (Endian.number bs.reverse)).toNat).reverse = bs
    rw [h bs.reverse (by rw [List.length_reverse, eight]), List.reverse_reverse]

end ByteOrder

end HartTraps
