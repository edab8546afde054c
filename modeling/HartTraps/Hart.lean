import HartTraps.Csr.Privilege
import HartTraps.Register
import HartTraps.Trap

/-!
# The hart

A hart has a pc, a mode, general registers and control and status registers. `Hart.enter` is what
the hardware does when a trap reaches a level, `Hart.leave` what it does when the level's handler
returns.
-/

namespace HartTraps

/-- The architectural state of one hardware thread. -/
@[ext] structure Hart where
  pc : Word
  mode : Mode
  registers : RegFile
  csrs : CsrFile
  deriving DecidableEq

namespace Hart

/-- A hart after reset starts in Machine mode at the entry address. -/
def reset (entry : Word) : Hart :=
  { pc := entry, mode := .machine, registers := .zero, csrs := .zero }

/-- The word in a general register. -/
def read (h : Hart) (r : Register) : Word :=
  h.registers.read r

/-- Writes a general register. -/
def write (h : Hart) (r : Register) (w : Word) : Hart :=
  { h with registers := h.registers.write r w }

/-- Writes a control and status register. -/
def writeCsr (h : Hart) (a : CsrAddress) (w : Word) : Hart :=
  { h with csrs := h.csrs.write a w }

/-- The mask that delegates traps of this cause to Supervisor. -/
def delegationMask (h : Hart) (c : Cause) : Word :=
  h.csrs.read (if c.isInterrupt then .mideleg else .medeleg)

/-- The level whose handler takes a trap. Traps from Machine mode and codes past the mask stay at Machine. -/
def trapLevel (h : Hart) (t : Trap) : TrapLevel :=
  if t.origin = .machine ∨ 64 ≤ t.cause.code.toNat then .machine
  else if (h.delegationMask t.cause).getLsbD t.cause.code.toNat then .supervisor
  else .machine

/-- The control and status registers once those of `level` describe the trap. -/
def describe (h : Hart) (level : TrapLevel) (t : Trap) : CsrFile :=
  ((h.csrs.write level.csrs.pc t.pc).write level.csrs.cause t.cause.raw).write
    level.csrs.value (t.address.getD 0)

/-- The control and status registers at the handler's first instruction. -/
def csrsAtEntry (h : Hart) (level : TrapLevel) (t : Trap) : CsrFile :=
  ((h.describe level t).setPreviousMode? level t.origin).getD (h.describe level t)

/-- The trap reaches `level`: its registers describe the trap and control passes to its handler. -/
def enter (h : Hart) (level : TrapLevel) (t : Trap) : Hart :=
  let csrs := h.csrsAtEntry level t
  { h with csrs, mode := level.mode, pc := csrs.read level.csrs.vector &&& ~~~3 }

/-- The handler at `level` returns to its exception pc in the previous mode. -/
def leave (h : Hart) (level : TrapLevel) : Hart :=
  { h with mode := h.csrs.previousMode level, pc := h.csrs.read level.csrs.pc }

/-- Requests the mode to which the handler at `level` returns, if its field can hold it. -/
def setPreviousMode? (h : Hart) (level : TrapLevel) (mode : Mode) : Option Hart :=
  (h.csrs.setPreviousMode? level mode).map fun csrs => { h with csrs }

@[simp] theorem csrs_write (h : Hart) (r : Register) (w : Word) : (h.write r w).csrs = h.csrs := rfl

@[simp] theorem pc_write (h : Hart) (r : Register) (w : Word) : (h.write r w).pc = h.pc := rfl

@[simp] theorem mode_write (h : Hart) (r : Register) (w : Word) : (h.write r w).mode = h.mode := rfl

@[simp] theorem csrs_writeCsr (h : Hart) (a : CsrAddress) (w : Word) :
    (h.writeCsr a w).csrs = h.csrs.write a w := rfl

@[simp] theorem read_writeCsr (h : Hart) (a : CsrAddress) (w : Word) (r : Register) :
    (h.writeCsr a w).read r = h.read r := rfl

@[simp] theorem read_enter (h : Hart) (level : TrapLevel) (t : Trap) (r : Register) :
    (h.enter level t).read r = h.read r := rfl

@[simp] theorem csrs_enter (h : Hart) (level : TrapLevel) (t : Trap) :
    (h.enter level t).csrs = h.csrsAtEntry level t := rfl

@[simp] theorem csrs_leave (h : Hart) (level : TrapLevel) : (h.leave level).csrs = h.csrs := rfl

end Hart

end HartTraps
