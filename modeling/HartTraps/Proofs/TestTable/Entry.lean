import HartTraps.Proofs.Trap.Pages

/-!
# Entry points of cases

The routine of a case has an offset in the 2 MiB page in which the program runs, so the case's entry point is a
place in the sense of `Architecture.place`: the pages are the labels, and the offsets are the rest of the
address. Two places in a row can be taken in either order if each keeps the bits that the other sets
(`Architecture.place_comm`). So wherever a program moves, as long as its page has at least 2 MiB, the entry
points of its table move along (`TestCase.entry_of_relocated`, `Bench.entryIn_of_raise`).
-/

namespace HartTraps

namespace Architecture

variable {mask other page base a : Word}

/-- The order of two places does not matter if each keeps the page of the other. -/
theorem place_comm (pageKept : page &&& other = page) (baseKept : base &&& mask = base) :
    place other base (place mask page a) = place mask page (place other base a) := by
  unfold place
  rw [BitVec.and_or_distrib_right, BitVec.and_or_distrib_right, pageKept, baseKept, BitVec.and_assoc,
    BitVec.and_comm mask, ← BitVec.and_assoc, BitVec.or_assoc, BitVec.or_comm page, ← BitVec.or_assoc]

/-- Addresses with the same place are those with the same offset. -/
theorem place_eq_iff (aligned : page &&& mask = 0) :
    place mask page a = place mask page base ↔ a &&& mask = base &&& mask := by
  constructor
  · intro same
    have offsets := congrArg (· &&& mask) same
    unfold place at offsets
    rwa [and_place_of_aligned aligned, and_place_of_aligned aligned] at offsets
  · intro same
    unfold place
    rw [same]

end Architecture

/-! ## Labels -/

namespace Label

variable {mask : Word}

theorem getLsbD_mask (k : Nat) : Label.mask.getLsbD k = decide (k < 21) := by
  have ones : Label.mask = BitVec.ofNat 64 (2 ^ 21 - 1) := by decide
  rw [ones, BitVec.getLsbD_ofNat, Nat.testBit_two_pow_sub_one, ← Bool.decide_and]
  exact decide_eq_decide.mpr (by omega)

/-- A label has its own bits only. -/
theorem offset_and_mask (label : Label) : label.offset &&& Label.mask = label.offset := by
  apply BitVec.eq_of_getLsbD_eq
  intro k word
  rw [BitVec.getLsbD_and, getLsbD_mask, offset, BitVec.getLsbD_setWidth]
  by_cases own : k < 21
  · simp [own]
  · simp [BitVec.getLsbD_of_ge label k (by omega)]

theorem offset_and_not_mask (label : Label) : label.offset &&& ~~~Label.mask = 0 := by
  rw [← label.offset_and_mask, BitVec.and_assoc, BitVec.and_not_self]
  exact BitVec.and_zero

/-- Addresses agree outside the label exactly if they agree in the bits 21 and up. -/
theorem and_not_mask_eq_iff {a b : Word} :
    a &&& ~~~Label.mask = b &&& ~~~Label.mask ↔ ∀ k, 21 ≤ k → a.getLsbD k = b.getLsbD k := by
  have bit (a : Word) (k : Nat) :
      (a &&& ~~~Label.mask).getLsbD k = (a.getLsbD k && !decide (k < 21)) := by
    rw [BitVec.getLsbD_and, BitVec.getLsbD_not, getLsbD_mask]
    by_cases word : k < 64
    · simp [word]
    · simp [BitVec.getLsbD_of_ge a k (by omega)]
  constructor
  · intro same k above
    have bits := congrArg (·.getLsbD k) same
    rw [bit, bit] at bits
    have outside : ¬k < 21 := by omega
    simpa [outside] using bits
  · intro same
    apply BitVec.eq_of_getLsbD_eq
    intro k word
    rw [bit, bit]
    by_cases own : k < 21
    · simp [own]
    · rw [same k (by omega)]

section Wide

variable (wide : Label.mask &&& mask = Label.mask)

include wide

/-- A label lies within the offsets of a page that is wide enough. -/
theorem offset_and_of_wide (label : Label) : label.offset &&& mask = label.offset := by
  rw [← label.offset_and_mask, BitVec.and_assoc, wide]

/-- The base of such a page has no bits of a label. -/
theorem and_not_mask_of_aligned {page : Word} (aligned : page &&& mask = 0) :
    page &&& ~~~Label.mask = page := by
  apply Architecture.and_not_of_aligned
  rw [← wide, BitVec.and_comm Label.mask, ← BitVec.and_assoc, aligned]
  exact BitVec.zero_and

end Wide

end Label

/-- A page of at least 2 MiB is wide enough for labels. -/
theorem PageSize.mask_and_offsetMask {size : PageSize} (wide : 21 ≤ size.offsetBits) :
    Label.mask &&& size.offsetMask = Label.mask := by
  cases size with
  | kilo => exact absurd wide (by decide)
  | mega => decide
  | giga => decide
  | tera => decide

/-! ## Entry points -/

namespace TestCase

open Architecture

/-- An entry point is the place of the pc among the labels. -/
theorem entryIn_eq (case : TestCase) (pc : Word) :
    case.entryIn pc = place (~~~Label.mask) case.label.offset pc := rfl

/-- An entry point moves with the program. -/
theorem entryIn_place (case : TestCase) {mask page : Word} (wide : Label.mask &&& mask = Label.mask)
    (aligned : page &&& mask = 0) (pc : Word) :
    case.entryIn (place mask page pc) = place mask page (case.entryIn pc) := by
  rw [entryIn_eq, entryIn_eq]
  exact place_comm (Label.and_not_mask_of_aligned wide aligned) (Label.offset_and_of_wide wide _)

/-- The entry point of a case moves with the program to every page of at least 2 MiB; from the entry point one
gets to the entry point again; and it is the same for two addresses exactly if they agree in the bits above
the label. -/
theorem entry_of_relocated (case : TestCase) (pc : Word) :
    (∀ (size : PageSize) (page : Word), 21 ≤ size.offsetBits → page &&& size.offsetMask = 0 →
      case.entryIn (size.relocate pc page) = size.relocate (case.entryIn pc) page) ∧
    case.entryIn (case.entryIn pc) = case.entryIn pc ∧
    ∀ other, case.entryIn pc = case.entryIn other ↔ ∀ k, 21 ≤ k → pc.getLsbD k = other.getLsbD k := by
  refine ⟨fun size page wide aligned => ?moved, ?again, fun other => ?same⟩
  case moved => exact case.entryIn_place (PageSize.mask_and_offsetMask wide) aligned pc
  case again => exact place_place case.label.offset_and_not_mask case.label.offset pc
  case same =>
    rw [← Label.and_not_mask_eq_iff]
    exact place_eq_iff case.label.offset_and_not_mask

/-- The routine at offset 0x124 of a program that moves by a gibibyte, as it is called from two places. -/
theorem entry_of_relocated_giga :
    let case : TestCase := ⟨0, 0, 0x80200124⟩
    case.entryIn (PageSize.giga.relocate 0x80400ABC 0x4000000000) =
        PageSize.giga.relocate 0x80400124 0x4000000000 ∧
      case.entryIn 0x80400ABC = case.entryIn 0x804FFFFC := by
  intro case
  obtain ⟨moved, -, same⟩ := case.entry_of_relocated 0x80400ABC
  refine ⟨(moved .giga 0x4000000000 (by decide) (by decide)).trans (by decide), (same _).mpr ?_⟩
  exact Label.and_not_mask_eq_iff.mp (by decide)

/-- In a page of 4 KiB the label does not fit, so its high bits would be lost. -/
example : ∃ (case : TestCase) (pc page : Word), page &&& PageSize.kilo.offsetMask = 0 ∧
    case.entryIn (PageSize.kilo.relocate pc page) ≠ PageSize.kilo.relocate (case.entryIn pc) page :=
  ⟨⟨0, 0, 0x1000⟩, 0x80000000, 0x40000000, by decide, by decide⟩

end TestCase

/-- After a call that moves the program to a page of at least 2 MiB, every case enters where its routine has
gone. -/
theorem Bench.entryIn_of_raise {b : Bench} {t : Trap} {o : Outcome} {mask : Word}
    (accepted : (raise t b).result = .ok o) (asks : Architecture.AsksToMove b.hart t)
    (known : Architecture.offsetMask? (b.hart.read .a2).toNat = some mask)
    (wide : Label.mask &&& mask = Label.mask) (aligned : b.hart.read .a1 &&& mask = 0)
    (case : TestCase) :
    case.entryIn (raise t b).state.hart.pc =
      Architecture.place mask (b.hart.read .a1) (case.entryIn (Architecture.next b t)) := by
  rw [(relocation_of_raise accepted asks known).pc]
  exact case.entryIn_place wide aligned _

end HartTraps
