import HartTraps.Privilege

/-!
# Addresses of control and status registers

There are 4096 registers. This module names those that trap handling uses, groups the trap registers
of each level, and names the fields of `mstatus`.
-/

namespace HartTraps

/-- The address of a control and status register. -/
abbrev CsrAddress := BitVec 12

namespace CsrAddress

/-- The register at a raw 16-bit address, if there is one. -/
def ofRaw? (raw : BitVec 16) : Option CsrAddress :=
  if raw.toNat < 4096 then some (raw.setWidth 12) else none

/-- Supervisor trap vector. -/
def stvec : CsrAddress := 0x105

/-- Supervisor exception pc. -/
def sepc : CsrAddress := 0x141

/-- Supervisor trap cause. -/
def scause : CsrAddress := 0x142

/-- Supervisor trap value. -/
def stval : CsrAddress := 0x143

/-- Page table root and paging scheme. -/
def satp : CsrAddress := 0x180

/-- Machine status. -/
def mstatus : CsrAddress := 0x300

/-- Exceptions that are delegated to Supervisor. -/
def medeleg : CsrAddress := 0x302

/-- Interrupts that are delegated to Supervisor. -/
def mideleg : CsrAddress := 0x303

/-- Machine trap vector. -/
def mtvec : CsrAddress := 0x305

/-- Machine exception pc. -/
def mepc : CsrAddress := 0x341

/-- Machine trap cause. -/
def mcause : CsrAddress := 0x342

/-- Machine trap value. -/
def mtval : CsrAddress := 0x343

/-- Configuration register `n` of the physical memory protection unit. -/
def pmpConfig (n : BitVec 8) : CsrAddress := 0x3A0 + n.setWidth 12

/-- Address register `n` of the physical memory protection unit. -/
def pmpAddress (n : BitVec 8) : CsrAddress := 0x3B0 + n.setWidth 12

/-- A bank of 256 registers that ends in the file is numbered without wrapping. -/
theorem toNat_bank {first : CsrAddress} (below : first.toNat ≤ 0xF00) (n : BitVec 8) :
    (first + n.setWidth 12).toNat = first.toNat + n.toNat := by
  have small : n.toNat < 256 := n.isLt
  rw [BitVec.toNat_add, BitVec.toNat_setWidth]
  omega

end CsrAddress

/-- The registers that describe a trap to its handler. -/
structure TrapRegisters where
  vector : CsrAddress
  pc : CsrAddress
  cause : CsrAddress
  value : CsrAddress

/-- The trap registers of a level. -/
def TrapLevel.csrs : TrapLevel → TrapRegisters
  | machine => ⟨.mtvec, .mepc, .mcause, .mtval⟩
  | supervisor => ⟨.stvec, .sepc, .scause, .stval⟩

namespace TrapLevel

theorem csrs_pc_ne_mstatus (level : TrapLevel) : level.csrs.pc ≠ .mstatus := by
  cases level <;> decide

theorem csrs_cause_ne_mstatus (level : TrapLevel) : level.csrs.cause ≠ .mstatus := by
  cases level <;> decide

theorem csrs_value_ne_mstatus (level : TrapLevel) : level.csrs.value ≠ .mstatus := by
  cases level <;> decide

theorem csrs_cause_ne_pc (level : TrapLevel) : level.csrs.cause ≠ level.csrs.pc := by
  cases level <;> decide

theorem csrs_value_ne_pc (level : TrapLevel) : level.csrs.value ≠ level.csrs.pc := by
  cases level <;> decide

theorem csrs_value_ne_cause (level : TrapLevel) : level.csrs.value ≠ level.csrs.cause := by
  cases level <;> decide

/-- The vector is none of the registers that a trap writes. -/
theorem csrs_vector_ne (level other : TrapLevel) :
    level.csrs.vector ≠ other.csrs.pc ∧ level.csrs.vector ≠ other.csrs.cause ∧
      level.csrs.vector ≠ other.csrs.value ∧ level.csrs.vector ≠ .mstatus := by
  cases level <;> cases other <;> decide

/-- Two levels share no trap register. -/
theorem csrs_disjoint {level other : TrapLevel} (ne : other ≠ level) {a : CsrAddress}
    (own : a ∈ [other.csrs.vector, other.csrs.pc, other.csrs.cause, other.csrs.value]) :
    a ∉ [level.csrs.pc, level.csrs.cause, level.csrs.value, .mstatus] := by
  simp only [List.mem_cons, List.not_mem_nil, or_false] at own
  cases level <;> cases other
  · exact absurd rfl ne
  · rcases own with rfl | rfl | rfl | rfl <;> decide
  · rcases own with rfl | rfl | rfl | rfl <;> decide
  · exact absurd rfl ne

/-- The registers that control traps and paging are none of those that a trap writes. -/
theorem csrs_control_disjoint (level : TrapLevel) {a : CsrAddress}
    (control : a ∈ [.medeleg, .mideleg, .mtvec, .stvec, .satp]) :
    a ∉ [level.csrs.pc, level.csrs.cause, level.csrs.value, .mstatus] := by
  simp only [List.mem_cons, List.not_mem_nil, or_false] at control
  cases level <;> rcases control with rfl | rfl | rfl | rfl | rfl <;> decide

end TrapLevel

namespace Status

/-- The previous privilege of a Supervisor trap: set for Supervisor, clear for User. -/
def spp : Word := 1 <<< 8

/-- The previous privilege of a Machine trap, a two-bit mode code. -/
def mpp : Word := 3 <<< 11

/-- Loads and stores use the paging of the previous mode. -/
def mprv : Word := 1 <<< 17

/-- Supervisor may access user pages. -/
def sum : Word := 1 <<< 18

/-- Loads may read executable pages. -/
def mxr : Word := 1 <<< 19

end Status

end HartTraps
