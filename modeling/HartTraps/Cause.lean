import HartTraps.Bytes.Endian

/-!
# Trap causes

A raw cause word says in bit 63 whether a trap is an interrupt and in the other bits which one.
Codes that the privileged architecture assigns have names; the others are reserved.
-/

namespace HartTraps

/-- A raw cause word as the trap cause registers hold it. -/
structure Cause where
  raw : Word
  deriving DecidableEq

/-- The synchronous exceptions with an assigned code. -/
inductive Exception where
  | fetchMisaligned
  | fetchAccess
  | illegalInstruction
  | breakpoint
  | loadMisaligned
  | loadAccess
  | storeMisaligned
  | storeAccess
  | callFromUser
  | callFromSupervisor
  | callFromMachine
  | fetchPage
  | loadPage
  | storePage
  deriving DecidableEq

/-- The interrupts with an assigned code. -/
inductive Interrupt where
  | supervisorSoftware
  | machineSoftware
  | supervisorTimer
  | machineTimer
  | supervisorExternal
  | machineExternal
  deriving DecidableEq

namespace Exception

/-- The exception with the given code. -/
def ofCode? (code : Word) : Option Exception :=
  match code.toNat with
  | 0 => some fetchMisaligned
  | 1 => some fetchAccess
  | 2 => some illegalInstruction
  | 3 => some breakpoint
  | 4 => some loadMisaligned
  | 5 => some loadAccess
  | 6 => some storeMisaligned
  | 7 => some storeAccess
  | 8 => some callFromUser
  | 9 => some callFromSupervisor
  | 11 => some callFromMachine
  | 12 => some fetchPage
  | 13 => some loadPage
  | 15 => some storePage
  | _ => none

/-- The name of the exception in reports. -/
def name : Exception → String
  | fetchMisaligned => "InstructionAddressMisaligned"
  | fetchAccess => "InstructionAccessFault"
  | illegalInstruction => "IllegalInstruction"
  | breakpoint => "Breakpoint"
  | loadMisaligned => "LoadAddressMisaligned"
  | loadAccess => "LoadAccessFault"
  | storeMisaligned => "StoreAddressMisaligned"
  | storeAccess => "StoreAccessFault"
  | callFromUser => "EnvironmentCallFromU"
  | callFromSupervisor => "EnvironmentCallFromS"
  | callFromMachine => "EnvironmentCallFromM"
  | fetchPage => "InstructionPageFault"
  | loadPage => "LoadPageFault"
  | storePage => "StorePageFault"

end Exception

namespace Interrupt

/-- The interrupt with the given code. -/
def ofCode? (code : Word) : Option Interrupt :=
  match code.toNat with
  | 1 => some supervisorSoftware
  | 3 => some machineSoftware
  | 5 => some supervisorTimer
  | 7 => some machineTimer
  | 9 => some supervisorExternal
  | 11 => some machineExternal
  | _ => none

/-- The name of the interrupt in reports. -/
def name : Interrupt → String
  | supervisorSoftware => "SupervisorSoftware"
  | machineSoftware => "MachineSoftware"
  | supervisorTimer => "SupervisorTimer"
  | machineTimer => "MachineTimer"
  | supervisorExternal => "SupervisorExternal"
  | machineExternal => "MachineExternal"

end Interrupt

namespace Cause

/-- The bit that tells interrupts from exceptions. -/
def interruptBit : Word := 1 <<< 63

/-- The cause of an exception. -/
def exception (code : Word) : Cause := ⟨code &&& ~~~interruptBit⟩

/-- The cause of an interrupt. -/
def interrupt (code : Word) : Cause := ⟨code ||| interruptBit⟩

/-- Whether the trap is an interrupt. -/
def isInterrupt (c : Cause) : Bool := c.raw.msb

/-- The cause without the interrupt bit. -/
def code (c : Cause) : Word := c.raw &&& ~~~interruptBit

/-- The name of a cause in reports; a reserved code is shown in decimal. -/
def name (c : Cause) : String :=
  if c.isInterrupt then
    match Interrupt.ofCode? c.code with
    | some i => i.name ++ "Interrupt"
    | none => "ReservedInterrupt(" ++ toString c.code.toNat ++ ")"
  else
    match Exception.ofCode? c.code with
    | some e => e.name
    | none => "ReservedException(" ++ toString c.code.toNat ++ ")"

end Cause

end HartTraps
