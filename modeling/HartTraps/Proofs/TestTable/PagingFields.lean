import Mathlib.Algebra.Group.Nat.Defs
import HartTraps.Proofs.TestTable.Assignments

/-!
# Fields of the paging register

The paging register holds three numbers: that of the scheme in its four high bits, that of the address space
in the 16 bits below, and the page of the root table in the other 44. A case shifts its operands to these
places and joins them, without cutting any of them. So the root is always that of the case, while an operand
that is wider than its field reaches into the fields above it. `TestTable.paging_of_case` says what the fields
then hold, and for which operands each of them holds what the case asks for.
-/

namespace HartTraps

/-! ## Fields of a word -/

section Fields

variable {start len n : Nat} {x : Word}

/-- A field above the place to which a word is shifted is a field of this word. -/
theorem extractLsb'_shiftLeft_above (above : n ≤ start) (inside : start + len ≤ 64) :
    (x <<< n).extractLsb' start len = x.extractLsb' (start - n) len := by
  apply BitVec.eq_of_getLsbD_eq
  intro k field
  have word : start + k < 64 := by omega
  have reached : ¬start + k < n := by omega
  have place : start + k - n = start - n + k := by omega
  rw [BitVec.getLsbD_extractLsb', BitVec.getLsbD_extractLsb', BitVec.getLsbD_shiftLeft, place]
  simp [word, reached]

/-- A field below this place is clear. -/
theorem extractLsb'_shiftLeft_below (below : start + len ≤ n) :
    (x <<< n).extractLsb' start len = 0 := by
  apply BitVec.eq_of_getLsbD_eq
  intro k field
  have missed : start + k < n := by omega
  simp [missed]

/-- A number has no bits above its width. -/
theorem extractLsb'_of_toNat_lt (small : x.toNat < 2 ^ start) : x.extractLsb' start len = 0 := by
  apply BitVec.eq_of_toNat_eq
  rw [BitVec.extractLsb'_toNat, Nat.shiftRight_eq_zero _ _ small, Nat.zero_mod]
  rfl

/-- Joining other bits to a field changes nothing exactly if the field has them all. -/
theorem or_eq_left_iff_and_not {field other : BitVec len} :
    field ||| other = field ↔ other &&& ~~~field = 0 := by
  constructor
  · intro same
    have outside : (field ||| other) &&& ~~~field = 0 := by
      rw [same, BitVec.and_not_self]
    rw [BitVec.and_or_distrib_right, BitVec.and_not_self] at outside
    exact BitVec.zero_or.symm.trans outside
  · intro outside
    have whole : field ||| (other &&& ~~~field) = field ||| other := by
      ext k bound
      simp [Bool.or_and_distrib_left]
    rw [← whole, outside]
    exact BitVec.or_zero

end Fields

/-! ## The paging register -/

namespace Paging

/-- The number of the scheme. -/
def modeField (satp : Word) : BitVec 4 := satp.extractLsb' 60 4

/-- The number of the address space. -/
def spaceField (satp : Word) : BitVec 16 := satp.extractLsb' 44 16

/-- The page of the root table. -/
def rootField (satp : Word) : BitVec 44 := satp.extractLsb' 0 44

variable {scheme : Paging} (paged : scheme ≠ .bare) (case : TestCase)

include paged

theorem satp_of_paged :
    scheme.satp case = (scheme.mode <<< 60) ||| (case.value <<< 44) ||| case.address := by
  cases scheme with
  | bare => exact absurd rfl paged
  | sv39 => rfl
  | sv48 => rfl

/-- Neither the scheme nor the value reaches down to the root. -/
theorem rootField_satp : rootField (scheme.satp case) = case.address.extractLsb' 0 44 := by
  unfold rootField
  rw [satp_of_paged paged, BitVec.extractLsb'_or, BitVec.extractLsb'_or,
    extractLsb'_shiftLeft_below (by decide), extractLsb'_shiftLeft_below (by decide), BitVec.or_self]
  exact BitVec.zero_or

/-- The address reaches up into the space. -/
theorem spaceField_satp :
    spaceField (scheme.satp case) = case.value.extractLsb' 0 16 ||| case.address.extractLsb' 44 16 := by
  unfold spaceField
  rw [satp_of_paged paged, BitVec.extractLsb'_or, BitVec.extractLsb'_or,
    extractLsb'_shiftLeft_below (by decide), extractLsb'_shiftLeft_above (by decide) (by decide)]
  exact congrArg (· ||| _) BitVec.zero_or

/-- The value and the address reach up into the mode. -/
theorem modeField_satp :
    modeField (scheme.satp case) = scheme.mode.extractLsb' 0 4 |||
      (case.value.extractLsb' 16 4 ||| case.address.extractLsb' 60 4) := by
  unfold modeField
  rw [satp_of_paged paged, BitVec.extractLsb'_or, BitVec.extractLsb'_or,
    extractLsb'_shiftLeft_above (by decide) (by decide),
    extractLsb'_shiftLeft_above (by decide) (by decide), BitVec.or_assoc]

end Paging

namespace TestTable

open Paging

variable {σ : Type}

/-- A case for one of the two schemes with page tables puts the low 44 bits of its address into the root
field. The space field is the low 16 bits of the value joined with the bits 44 to 59 of the address, and the
mode field is the number of the scheme joined with the bits 16 to 19 of the value and the bits 60 to 63 of the
address. So each of these two holds what the case asks for exactly if it has the bits that are joined to it
anyway, as it does if the value has at most 16 bits and the address at most 44. -/
theorem paging_of_case (probe : Probe σ) (case : TestCase) (s : σ) (b : Bench) {scheme : Paging}
    {number : BitVec 4} (paged : (scheme, number) ∈ [(Paging.sv39, 8), (.sv48, 9)]) :
    let intoSpace := case.address.extractLsb' 44 16
    let intoMode := case.value.extractLsb' 16 4 ||| case.address.extractLsb' 60 4
    ∃ w, Sets probe case (.setPaging scheme) (b, s) .satp w [] ∧
      rootField w = case.address.extractLsb' 0 44 ∧
      spaceField w = case.value.extractLsb' 0 16 ||| intoSpace ∧
      modeField w = number ||| intoMode ∧
      (spaceField w = case.value.extractLsb' 0 16 ↔
        intoSpace &&& ~~~case.value.extractLsb' 0 16 = 0) ∧
      (modeField w = number ↔ intoMode &&& ~~~number = 0) ∧
      (case.value.toNat < 2 ^ 16 → case.address.toNat < 2 ^ 44 →
        spaceField w = case.value.extractLsb' 0 16 ∧ modeField w = number) := by
  intro intoSpace intoMode
  have tables : scheme ≠ .bare ∧ scheme.mode.extractLsb' 0 4 = number := by
    simp only [List.mem_cons, Prod.mk.injEq, List.not_mem_nil, or_false] at paged
    rcases paged with ⟨rfl, rfl⟩ | ⟨rfl, rfl⟩ <;> decide
  obtain ⟨tables, rfl⟩ := tables
  have space : spaceField (scheme.satp case) = _ := spaceField_satp tables case
  have mode : modeField (scheme.satp case) = _ := modeField_satp tables case
  refine ⟨scheme.satp case, sets_of_room probe case (.setPaging scheme) s rfl (.inl rfl),
    rootField_satp tables case, space, mode, ?_, ?_, ?fitting⟩
  · rw [space]
    exact or_eq_left_iff_and_not
  · rw [mode]
    exact or_eq_left_iff_and_not
  case fitting =>
    intro value address
    have above : case.address.toNat < 2 ^ 60 := Nat.lt_trans address (by decide)
    rw [space, mode, extractLsb'_of_toNat_lt value, extractLsb'_of_toNat_lt address,
      extractLsb'_of_toNat_lt above, BitVec.or_self]
    exact ⟨BitVec.or_zero, BitVec.or_zero⟩

/-- Operands that fit are kept apart. A value of 20 bits whose high four bits the number of the scheme has too
does no harm either, but the bits of an address above the root go into the space. -/
theorem paging_of_case_fitting_and_wide :
    let probe : Probe Unit := fun _ _ => pure ()
    let b := Bench.start {}
    (∃ w, Sets probe ⟨0x80001, 3, 0⟩ (.setPaging .sv39) (b, ()) .satp w [] ∧ rootField w = 0x80001 ∧
        spaceField w = 3 ∧ modeField w = 8) ∧
      ∃ w, Sets probe ⟨0x3_0000_0008_0001, 0x9_0005, 0⟩ (.setPaging .sv48) (b, ()) .satp w [] ∧
        rootField w = 0x80001 ∧ spaceField w ≠ 5 ∧ modeField w = 9 := by
  intro probe b
  obtain ⟨w, sets, root, -, -, -, -, fitting⟩ :=
    @paging_of_case Unit probe ⟨0x80001, 3, 0⟩ () b .sv39 8 (by decide)
  obtain ⟨space, mode⟩ := fitting (by decide) (by decide)
  obtain ⟨v, wide, wideRoot, -, -, wideSpace, wideMode, -⟩ :=
    @paging_of_case Unit probe ⟨0x3_0000_0008_0001, 0x9_0005, 0⟩ () b .sv48 9 (by decide)
  exact ⟨⟨w, sets, root.trans (by decide), space.trans (by decide), mode⟩,
    ⟨v, wide, wideRoot.trans (by decide), fun same => absurd (wideSpace.mp same) (by decide),
      wideMode.mpr (by decide)⟩⟩

/-- A value of 17 bits turns a case for the scheme with three levels into one for the scheme with four. -/
theorem value_selects_scheme :
    let probe : Probe Unit := fun _ _ => pure ()
    let reply := runCase probe ⟨0, 0x10000, 0x2C⟩ (.setPaging .sv39) (.start {}, ())
    let w := reply.state.1.hart.csrs.read .satp
    reply.result = .ok () ∧ modeField w = 9 ∧
      ¬∀ (probe : Probe Unit) case scheme number b,
        (scheme, number) ∈ [(Paging.sv39, (8 : BitVec 4)), (.sv48, 9)] →
        let w := (runCase probe case (.setPaging scheme) (b, ())).state.1.hart.csrs.read .satp
        modeField w = number ∧ spaceField w = case.value.extractLsb' 0 16 ∧
          rootField w = case.address.extractLsb' 0 44 := by
  intro probe reply w
  have stored : w = 0x9000000000000000 := by rfl
  have mode : modeField w = 9 := by
    rw [stored]
    decide
  refine ⟨by rfl, mode, fun kept => ?_⟩
  obtain ⟨same, -⟩ := kept probe ⟨0, 0x10000, 0x2C⟩ .sv39 8 (.start {}) (by decide)
  have changed : (9 : BitVec 4) = 8 := mode.symm.trans same
  revert changed
  decide

end TestTable

end HartTraps
