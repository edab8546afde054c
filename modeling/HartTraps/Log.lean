import HartTraps.Bytes.Codec
import HartTraps.Text.Hex

/-!
# The result log

Programs and handlers append result words to a region of fixed capacity. The region is mapped at a
virtual and a physical base, so its end has a cursor in either view; a program that moves to
another page takes the virtual view along.
-/

namespace HartTraps

/-- The words logged so far and where the region is mapped. -/
structure Log where
  words : List Word
  capacity : Word
  virtualBase : Word
  physicalBase : Word
  deriving DecidableEq

namespace Log

/-- A log without words. -/
def empty (capacity virtualBase physicalBase : Word) : Log :=
  { words := [], capacity, virtualBase, physicalBase }

/-- The distance from the base to the next free word, in bytes. -/
def offset (log : Log) : Word :=
  BitVec.ofNat 64 (8 * log.words.length)

/-- The virtual address of the next free word. -/
def virtualCursor (log : Log) : Word :=
  log.virtualBase + log.offset

/-- The physical address of the next free word. -/
def physicalCursor (log : Log) : Word :=
  log.physicalBase + log.offset

/-- Whether the region has no room for another word. -/
def isFull (log : Log) : Bool :=
  log.capacity.toNat ≤ log.words.length

/-- The words lie within the region. -/
def Fits (log : Log) : Prop :=
  log.words.length ≤ log.capacity.toNat

/-- Appends a word if there is room. -/
def append? (log : Log) (w : Word) : Option Log :=
  if log.isFull then none else some { log with words := log.words ++ [w] }

/-- Moves the virtual view so that its cursor becomes `cursor`. -/
def rebase (log : Log) (cursor : Word) : Log :=
  { log with virtualBase := cursor - log.offset }

/-- The logged words as raw bytes. -/
def bytes (log : Log) (order : ByteOrder) : List UInt8 :=
  log.words.flatMap order.bytes

/-- The text signature has a line of 16 hexadecimal digits for each word. -/
def signature (log : Log) : String :=
  String.join (log.words.map fun w => Hex.bytes (ByteOrder.big.bytes w) ++ "\n")

theorem append?_eq_some {log appended : Log} {w : Word} (h : log.append? w = some appended) :
    log.words.length < log.capacity.toNat ∧
      appended = { log with words := log.words ++ [w] } := by
  unfold append? isFull at h
  split at h
  · cases h
  · next room =>
    rw [decide_eq_true_iff] at room
    exact ⟨by omega, (Option.some.inj h).symm⟩

theorem append?_of_lt {log : Log} (w : Word) (room : log.words.length < log.capacity.toNat) :
    log.append? w = some { log with words := log.words ++ [w] } := by
  unfold append? isFull
  have notFull : ¬decide (log.capacity.toNat ≤ log.words.length) = true := by
    rw [decide_eq_true_iff]
    omega
  rw [if_neg notFull]

theorem append?_eq_none_iff {log : Log} {w : Word} :
    log.append? w = none ↔ log.capacity.toNat ≤ log.words.length := by
  unfold append? isFull
  split
  · next full => exact ⟨fun _ => of_decide_eq_true full, fun _ => rfl⟩
  · next room =>
    constructor
    · intro refused
      cases refused
    · intro full
      exact absurd (decide_eq_true full) room

theorem fits_empty (capacity virtualBase physicalBase : Word) :
    (empty capacity virtualBase physicalBase).Fits :=
  Nat.zero_le _

theorem Fits.append? {log appended : Log} {w : Word} (h : log.append? w = some appended) :
    appended.Fits := by
  obtain ⟨room, rfl⟩ := append?_eq_some h
  unfold Fits
  rw [List.length_append]
  exact room

@[simp] theorem virtualCursor_rebase (log : Log) (cursor : Word) :
    (log.rebase cursor).virtualCursor = cursor :=
  BitVec.sub_add_cancel cursor log.offset

/-- To move the cursor to where it is changes nothing. -/
@[simp] theorem rebase_virtualCursor (log : Log) : log.rebase log.virtualCursor = log := by
  unfold rebase virtualCursor
  rw [BitVec.add_sub_cancel]

@[simp] theorem physicalCursor_rebase (log : Log) (cursor : Word) :
    (log.rebase cursor).physicalCursor = log.physicalCursor := rfl

end Log

end HartTraps
