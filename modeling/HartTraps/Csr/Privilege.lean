import HartTraps.Csr.File

/-!
# Previous privilege

A level's field in `mstatus` says to which mode a return from that level goes. Supervisor's field is
one bit wide and cannot hold Machine, so `CsrFile.setPreviousMode?` refuses that request;
`CsrFile.previousMode_of_set` says that every other request is kept.
-/

namespace HartTraps.CsrFile

/-- The mode that a return from `level` goes to. -/
def previousMode (file : CsrFile) : TrapLevel → Mode
  | .machine => Mode.ofCode (file.read .mstatus >>> 11)
  | .supervisor => if file.read .mstatus &&& Status.spp = 0 then .user else .supervisor

/-- Requests `mode` as the mode that a return from `level` goes to, if the level's field can hold it. -/
def setPreviousMode? (file : CsrFile) : TrapLevel → Mode → Option CsrFile
  | .machine, mode =>
    some (file.write .mstatus ((file.read .mstatus &&& ~~~Status.mpp) ||| (mode.code <<< 11)))
  | .supervisor, .supervisor => some (file.write .mstatus (file.read .mstatus ||| Status.spp))
  | .supervisor, .user => some (file.write .mstatus (file.read .mstatus &&& ~~~Status.spp))
  | .supervisor, .machine => none

/-- The field of the status register that holds the mode to which a return from `level` goes. -/
def previousField : TrapLevel → Word
  | .machine => Status.mpp
  | .supervisor => Status.spp

theorem setPreviousMode?_eq_none_iff (file : CsrFile) (level : TrapLevel) (mode : Mode) :
    file.setPreviousMode? level mode = none ↔ level = .supervisor ∧ mode = .machine := by
  cases level <;> cases mode <;> simp [setPreviousMode?]

/-- A request touches the status register only. -/
theorem read_of_setPreviousMode? {file changed : CsrFile} {level : TrapLevel} {mode : Mode}
    {a : CsrAddress} (h : file.setPreviousMode? level mode = some changed) (ha : a ≠ .mstatus) :
    changed.read a = file.read a := by
  cases level <;> cases mode <;> simp only [setPreviousMode?, Option.some.injEq, reduceCtorEq] at h <;>
    rw [← h, read_write_of_ne ha]

/-- A request touches no bit of the status register outside of its level's field. -/
theorem status_of_setPreviousMode? {file changed : CsrFile} {level : TrapLevel} {mode : Mode}
    (h : file.setPreviousMode? level mode = some changed) :
    changed.read .mstatus &&& ~~~previousField level =
      file.read .mstatus &&& ~~~previousField level := by
  have idem (status field : Word) : (status &&& ~~~field) &&& ~~~field = status &&& ~~~field := by
    rw [BitVec.and_assoc, BitVec.and_self]
  cases level with
  | machine =>
    obtain rfl := Option.some.inj h
    have inside : (mode.code <<< 11) &&& ~~~Status.mpp = 0 := by cases mode <;> decide
    rw [read_write_self, previousField, BitVec.and_or_distrib_right, idem, inside]
    exact BitVec.or_zero
  | supervisor =>
    cases mode with
    | machine => cases h
    | supervisor =>
      obtain rfl := Option.some.inj h
      have inside : Status.spp &&& ~~~Status.spp = 0 := by decide
      rw [read_write_self, previousField, BitVec.and_or_distrib_right, inside]
      exact BitVec.or_zero
    | user =>
      obtain rfl := Option.some.inj h
      rw [read_write_self, previousField, idem]

/-- The previous mode depends on the status register only. -/
theorem previousMode_congr {f g : CsrFile} (h : f.read .mstatus = g.read .mstatus)
    (level : TrapLevel) : f.previousMode level = g.previousMode level := by
  cases level <;> simp only [previousMode, h]

/-- The two-bit field of Machine reads back the code that was written into it. -/
theorem mpp_insert (status code : Word) (h : code &&& 3 = code) :
    (((status &&& ~~~Status.mpp) ||| (code <<< 11)) >>> 11) &&& 3 = code := by
  have clear : (status &&& ~~~Status.mpp) >>> 11 &&& 3 = 0 := by
    rw [BitVec.ushiftRight_and_distrib, BitVec.and_assoc]
    have none : ~~~Status.mpp >>> 11 &&& 3 = 0 := by decide
    rw [none]
    exact BitVec.and_zero
  have small : code.toNat ≤ 3 := by
    rw [← h, BitVec.toNat_and]
    exact Nat.and_le_right
  have back : code <<< 11 >>> 11 = code := by
    apply BitVec.eq_of_toNat_eq
    simp only [BitVec.toNat_ushiftRight, BitVec.toNat_shiftLeft, Nat.shiftLeft_eq,
      Nat.shiftRight_eq_div_pow]
    omega
  rw [BitVec.ushiftRight_or_distrib, BitVec.and_or_distrib_right, clear, back, h]
  exact BitVec.zero_or

/-- The one-bit field of Supervisor is set by writing it. -/
theorem spp_set (status : Word) : (status ||| Status.spp) &&& Status.spp ≠ 0 := by
  intro h
  have bit := congrArg (BitVec.getLsbD · 8) h
  simp [Status.spp] at bit

/-- The one-bit field of Supervisor is clear once it is cleared. -/
theorem spp_clear (status : Word) : (status &&& ~~~Status.spp) &&& Status.spp = 0 := by
  rw [BitVec.and_assoc]
  have none : ~~~Status.spp &&& Status.spp = 0 := by decide
  rw [none]
  exact BitVec.and_zero

theorem previousMode_of_set {file changed : CsrFile} {level : TrapLevel} {mode : Mode}
    (h : file.setPreviousMode? level mode = some changed) : changed.previousMode level = mode := by
  cases level with
  | machine =>
    obtain rfl := Option.some.inj h
    have code : mode.code &&& 3 = mode.code := by cases mode <;> rfl
    rw [previousMode, read_write_self, Mode.ofCode, mpp_insert _ _ code, ← code]
    exact Mode.ofCode_code mode
  | supervisor =>
    cases mode with
    | machine => exact absurd h (by simp [setPreviousMode?])
    | supervisor =>
      obtain rfl := Option.some.inj h
      rw [previousMode, read_write_self, if_neg (spp_set _)]
    | user =>
      obtain rfl := Option.some.inj h
      rw [previousMode, read_write_self, if_pos (spp_clear _)]

end HartTraps.CsrFile
