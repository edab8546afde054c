import HartTraps.Cause
import HartTraps.Privilege

/-!
# Trap events

A trap event is all that the hart knows when a trap occurs: the cause, the mode and pc that it
interrupts, and, where the cause has them, the faulting address and the trapping instruction.
-/

namespace HartTraps

/-- One trap as it reaches the hart. -/
structure Trap where
  cause : Cause
  origin : Mode
  pc : Word
  address : Option Word := none
  instruction : Option (BitVec 32) := none
  deriving DecidableEq

namespace Trap

/-- A synchronous exception. -/
def exception (code : Word) (origin : Mode) (pc : Word) : Trap :=
  { cause := .exception code, origin, pc }

/-- An interrupt. -/
def interrupt (code : Word) (origin : Mode) (pc : Word) : Trap :=
  { cause := .interrupt code, origin, pc }

/-- The cause code of an environment call from a mode. -/
def callCode : Mode → Word
  | .user => 8
  | .supervisor => 9
  | .machine => 11

/-- The encoding of the environment call instruction. -/
def callInstruction : BitVec 32 := 0x73

/-- An environment call, which always carries its instruction. -/
def environmentCall (origin : Mode) (pc : Word) : Trap :=
  { exception (callCode origin) origin pc with instruction := some callInstruction }

end Trap

end HartTraps
