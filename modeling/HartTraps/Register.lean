import HartTraps.Bytes.Endian

/-!
# General registers

The register file has 32 slots. Register x0 reads as zero and ignores writes, although a restored
file may hold a word in its slot. `RegFile.read_write` is the law of writes and `RegFile.ext` says
that a file is determined by its slots.
-/

namespace HartTraps

/-- One of the 32 general registers. -/
abbrev Register := BitVec 5

namespace Register

/-- The hardwired register x0. -/
def zero : Register := 0

/-- The return address register x1. -/
def ra : Register := 1

/-- The temporary register x5. -/
def t0 : Register := 5

/-- The first argument register x10. -/
def a0 : Register := 10

/-- The second argument register x11. -/
def a1 : Register := 11

/-- The third argument register x12. -/
def a2 : Register := 12

/-- The name of a register in reports: `X0` to `X31`. -/
def name (r : Register) : String :=
  "X" ++ toString r.toNat

end Register

/-- The words in the 32 register slots. -/
structure RegFile where
  slots : Vector Word 32
  deriving DecidableEq

namespace RegFile

/-- A register file of zeros. -/
def zero : RegFile := ⟨Vector.replicate _ 0⟩

/-- The word in a slot, which for x0 need not be what an instruction reads. -/
def slot (file : RegFile) (r : Register) : Word :=
  file.slots.get ⟨r.toNat, r.isLt⟩

/-- What an instruction reads: x0 is always zero. -/
def read (file : RegFile) (r : Register) : Word :=
  if r = Register.zero then 0 else file.slot r

/-- What an instruction writes: x0 keeps its slot. -/
def write (file : RegFile) (r : Register) (w : Word) : RegFile :=
  if r = Register.zero then file else ⟨file.slots.set r.toNat w r.isLt⟩

/-- The slots from x0 on. -/
def toList (file : RegFile) : List Word :=
  file.slots.toList

/-- The register file with the given slots from x0 on; missing ones are zero. -/
def ofList (words : List Word) : RegFile :=
  ⟨Vector.ofFn fun i => words.getD i 0⟩

theorem slot_eq_getElem (file : RegFile) (r : Register) (h : r.toNat < 32) :
    file.slot r = file.slots[r.toNat] := rfl

@[ext] theorem ext {f g : RegFile} (h : ∀ r, f.slot r = g.slot r) : f = g := by
  obtain ⟨v⟩ := f
  obtain ⟨u⟩ := g
  congr 1
  exact Vector.ext fun i hi => h (BitVec.ofFin ⟨i, hi⟩)

theorem slot_write (file : RegFile) (r s : Register) (w : Word) :
    (file.write r w).slot s =
      if r = Register.zero then file.slot s else if s = r then w else file.slot s := by
  unfold write
  split
  · rfl
  · rw [slot_eq_getElem _ s s.isLt, slot_eq_getElem file s s.isLt, Vector.getElem_set]
    by_cases h : s = r
    · rw [if_pos h, if_pos (congrArg BitVec.toNat h.symm)]
    · rw [if_neg h, if_neg fun e => h (BitVec.eq_of_toNat_eq e.symm)]

theorem read_write (file : RegFile) (r s : Register) (w : Word) :
    (file.write r w).read s =
      if s = Register.zero then 0 else if s = r then w else file.read s := by
  unfold read
  rw [slot_write]
  by_cases hs : s = Register.zero
  · simp only [if_pos hs]
  · by_cases h : s = r
    · have hr : r ≠ Register.zero := h ▸ hs
      simp only [if_neg hs, if_pos h, if_neg hr]
    · by_cases hr : r = Register.zero
      · simp only [if_neg hs, if_neg h, if_pos hr]
      · simp only [if_neg hs, if_neg h, if_neg hr]

@[simp] theorem read_write_self {file : RegFile} {r : Register} {w : Word}
    (h : r ≠ Register.zero) : (file.write r w).read r = w := by
  rw [read_write, if_neg h, if_pos rfl]

@[simp] theorem read_write_of_ne {file : RegFile} {r s : Register} {w : Word} (h : s ≠ r) :
    (file.write r w).read s = file.read s := by
  rw [read_write, if_neg h]
  split
  · next hs => rw [read, if_pos hs]
  · rfl

/-- Writing back what was read changes nothing. -/
theorem write_read (file : RegFile) (r : Register) : file.write r (file.read r) = file := by
  refine ext fun s => ?_
  rw [slot_write]
  split
  · rfl
  · next hr =>
    split
    · next h => rw [read, if_neg hr, h]
    · rfl

@[simp] theorem length_toList (file : RegFile) : file.toList.length = 32 := by
  simp [toList]

@[simp] theorem ofList_toList (file : RegFile) : ofList file.toList = file := by
  refine ext fun r => ?_
  have h : r.toNat < 32 := r.isLt
  rw [slot_eq_getElem _ r h, slot_eq_getElem _ r h]
  simp [ofList, toList]

/-- A list of 32 words is what its register file holds. -/
theorem toList_ofList {words : List Word} (length : words.length = 32) :
    (ofList words).toList = words := by
  refine List.ext_getElem (by rw [length_toList, length]) fun i hi bound => ?_
  simp [toList, ofList, bound]

end RegFile

end HartTraps
