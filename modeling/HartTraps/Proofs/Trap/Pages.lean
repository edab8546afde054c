import HartTraps.Proofs.Trap.Relocation

/-!
# Addresses in pages

A move to another page keeps the offset of an address and replaces the rest. `Architecture.place` is the
address that comes out. Pages whose bases have no offset bits leave no trace in it: what counts is the
offset and the last page. An address that moves takes its neighbours along as far as the page reaches; the
address past the end of the page goes to the base of the other page. `relocation_of_raise` and
`log_of_raise` say that this is where an accepted call for another page takes the program and its log.
-/

namespace HartTraps

namespace Architecture

/-- The address with the offset of `a` in the page with the base `page`. -/
def place (mask page a : Word) : Word :=
  (a &&& mask) ||| page

variable {code : Nat} {mask page a k : Word}

/-! ## Offsets -/

/-- A page has a power of two of addresses. -/
theorem size_dvd (known : offsetMask? code = some mask) : mask.toNat + 1 ∣ 2 ^ 64 := by
  obtain ⟨bits, word, low⟩ := toNat_of_offsetMask? known
  have positive : 0 < 2 ^ bits := Nat.two_pow_pos bits
  have size : mask.toNat + 1 = 2 ^ bits := by omega
  rw [size]
  exact Nat.pow_dvd_pow 2 word

/-- No page takes up all addresses. -/
theorem size_lt (known : offsetMask? code = some mask) : mask.toNat + 1 < 2 ^ 64 := by
  unfold offsetMask? at known
  split at known
  · cases known
    decide
  · cases known
    decide
  · cases known
    decide
  · cases known
    decide
  · cases known

theorem toNat_and_mask (known : offsetMask? code = some mask) (a : Word) :
    (a &&& mask).toNat = a.toNat % (mask.toNat + 1) := by
  obtain ⟨bits, -, low⟩ := toNat_of_offsetMask? known
  have positive : 0 < 2 ^ bits := Nat.two_pow_pos bits
  have size : mask.toNat + 1 = 2 ^ bits := by omega
  rw [BitVec.toNat_and, low, Nat.and_two_pow_sub_one_eq_mod, ← low, size]

/-- The offset of a sum depends on the offset of its first part only. -/
theorem toNat_add_and_mask (known : offsetMask? code = some mask) (a k : Word) :
    ((a + k) &&& mask).toNat = ((a &&& mask).toNat + k.toNat) % (mask.toNat + 1) := by
  rw [toNat_and_mask known, toNat_and_mask known, BitVec.toNat_add,
    Nat.mod_mod_of_dvd _ (size_dvd known), Nat.mod_add_mod]

/-- Within the page an offset grows with its address. -/
theorem add_and_mask (known : offsetMask? code = some mask)
    (inside : (a &&& mask).toNat + k.toNat ≤ mask.toNat) : (a + k) &&& mask = (a &&& mask) + k := by
  have bound : mask.toNat < 2 ^ 64 := mask.isLt
  apply BitVec.eq_of_toNat_eq
  rw [toNat_add_and_mask known, BitVec.toNat_add, Nat.mod_eq_of_lt (by omega),
    Nat.mod_eq_of_lt (by omega)]

/-- Past the end of the page offsets begin at 0 again. -/
theorem add_and_mask_of_end (known : offsetMask? code = some mask)
    (past : (a &&& mask).toNat + k.toNat = mask.toNat + 1) : (a + k) &&& mask = 0 := by
  apply BitVec.eq_of_toNat_eq
  rw [toNat_add_and_mask known, past, Nat.mod_self]
  rfl

/-! ## Places -/

/-- An address that lies in the page already stays where it is. -/
theorem place_of_mem (inPage : a &&& ~~~mask = page) : place mask page a = a := by
  unfold place
  rw [← inPage, ← BitVec.and_or_distrib_left, BitVec.or_not_self, BitVec.and_allOnes]

section Aligned

variable (aligned : page &&& mask = 0)

include aligned

/-- A page has bits outside the offset only. -/
theorem and_not_of_aligned : page &&& ~~~mask = page := by
  have split : (page &&& mask) ||| (page &&& ~~~mask) = page := place_of_mem rfl
  rw [aligned] at split
  exact BitVec.zero_or.symm.trans split

/-- The address is the sum of its offset and its page. -/
theorem place_eq_add (a : Word) : place mask page a = (a &&& mask) + page := by
  have apart : (a &&& mask) &&& page = 0 := by
    rw [BitVec.and_assoc, BitVec.and_comm mask, aligned]
    exact BitVec.and_zero
  exact (BitVec.add_eq_or_of_and_eq_zero _ _ apart).symm

/-- An address that moves twice goes where the second move alone takes it. -/
theorem place_place (other a : Word) : place mask other (place mask page a) = place mask other a := by
  unfold place
  rw [and_place_of_aligned aligned]

/-- Steps between two moves count as if they came before the first. -/
theorem place_add_place (known : offsetMask? code = some mask) (other a k : Word) :
    place mask other (place mask page a + k) = place mask other (a + k) := by
  have offset : (place mask page a + k) &&& mask = (a + k) &&& mask := by
    apply BitVec.eq_of_toNat_eq
    rw [toNat_add_and_mask known, toNat_add_and_mask known]
    unfold place
    rw [and_place_of_aligned aligned]
  unfold place
  unfold place at offset
  rw [offset]

/-- The address lies in the page. -/
theorem place_and_not_mask (a : Word) : place mask page a &&& ~~~mask = page := by
  have offset : (a &&& mask) &&& ~~~mask = 0 := by
    rw [BitVec.and_assoc, BitVec.and_not_self]
    exact BitVec.and_zero
  unfold place
  rw [BitVec.and_or_distrib_right, offset, and_not_of_aligned aligned]
  exact BitVec.zero_or

/-- Within a page addresses keep their distance. -/
theorem place_add (known : offsetMask? code = some mask)
    (inside : (a &&& mask).toNat + k.toNat ≤ mask.toNat) :
    place mask page (a + k) = place mask page a + k := by
  rw [place_eq_add aligned, place_eq_add aligned, add_and_mask known inside, BitVec.add_assoc,
    BitVec.add_comm k, ← BitVec.add_assoc]

end Aligned

/-- The address past the end of its page goes to the base of the other page. -/
theorem place_add_of_end (known : offsetMask? code = some mask)
    (past : (a &&& mask).toNat + k.toNat = mask.toNat + 1) : place mask page (a + k) = page := by
  unfold place
  rw [add_and_mask_of_end known past]
  exact BitVec.zero_or

end Architecture

/-! ## What moves -/

/-- A log that differs in its virtual view only is the other log with its cursor moved. -/
theorem Log.eq_rebase {log other : Log} (words : log.words = other.words)
    (capacity : log.capacity = other.capacity) (physicalBase : log.physicalBase = other.physicalBase) :
    log = other.rebase log.virtualCursor := by
  obtain ⟨_, _, _, _⟩ := log
  obtain ⟨_, _, _, _⟩ := other
  cases words
  cases capacity
  cases physicalBase
  exact (Log.rebase_virtualCursor _).symm

namespace Bench

variable {b : Bench} {t : Trap} {o : Outcome} {mask : Word}
  (accepted : (raise t b).result = .ok o) (asks : Architecture.AsksToMove b.hart t)
  (known : Architecture.offsetMask? (b.hart.read .a2).toNat = some mask)

include accepted asks known

/-- An accepted call for another page takes every tracked address to its place there. -/
theorem relocation_of_raise :
    Relocation t (Architecture.place mask (b.hart.read .a1)) b (raise t b).state o := by
  obtain ⟨a, admits, served, state⟩ := admits_of_raise accepted
  have logged : a.log = Architecture.recorded b t := log_eq_of_logged? admits.logged
  have place : b.hart.requestedMove.apply = Architecture.place mask (b.hart.read .a1) :=
    funext (b.hart.requestedMove.apply_of_mask known)
  have moved := relocation_take admits.level.symm asks admits.frame
  rw [← logged, served, place] at moved
  rw [state]
  exact moved

/-- The log goes where its cursor goes. -/
theorem log_of_raise :
    (raise t b).state.log = (Architecture.recorded b t).rebase
      (Architecture.place mask (b.hart.read .a1) (Architecture.recorded b t).virtualCursor) := by
  have moved := relocation_of_raise accepted asks known
  obtain ⟨-, physicalBase, words⟩ := moved.physical
  rw [← moved.cursor]
  exact Log.eq_rebase words (footprint_of_raise accepted).region.1 physicalBase

end Bench

end HartTraps
