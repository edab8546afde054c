import HartTraps.Privilege
import HartTraps.Text.Inspect

/-!
# Routines of a test program

Each case of a test table names a routine. Some only set a control register, some change the mode
or end the run, and the others access memory, which is left to a probe.
-/

namespace HartTraps

/-- The width of a memory access. -/
inductive Width where
  | bits64
  | bits32
  | bits16
  | bits8
  deriving DecidableEq

/-- The width in bits, in two digits. -/
def Width.digits : Width → String
  | bits64 => "64"
  | bits32 => "32"
  | bits16 => "16"
  | bits8 => "08"

/-- A paging scheme. -/
inductive Paging where
  /-- Addresses are physical. -/
  | bare
  /-- Three levels of page tables. -/
  | sv39
  /-- Four levels of page tables. -/
  | sv48
  deriving DecidableEq

/-- The routines that a test case can name. -/
inductive Routine where
  /-- Writes memory. -/
  | store (width : Width)
  /-- Reads memory. -/
  | load (width : Width)
  /-- Runs code in memory. -/
  | fetch
  /-- Ends the run. -/
  | finish
  /-- Selects a paging scheme. -/
  | setPaging (scheme : Paging)
  /-- Sets the access rights to user and executable pages. -/
  | setPageAccess
  /-- Logs and replaces the flag that redirects loads and stores to the previous mode. -/
  | exchangeMprv
  /-- Resumes in another mode. -/
  | goto (target : Mode)
  /-- Sets a configuration register of the physical memory protection unit and logs it. -/
  | setPmpConfig (n : BitVec 8)
  /-- Sets an address register of the physical memory protection unit and logs it. -/
  | setPmpAddress (n : BitVec 8)
  deriving DecidableEq

namespace Routine

/-- The symbol of the routine in test programs. -/
def name : Routine → String
  | store width => "write" ++ width.digits ++ "_test"
  | load width => "read" ++ width.digits ++ "_test"
  | fetch => "executable_test"
  | finish => "terminate_test"
  | setPaging .bare => "goto_baremetal"
  | setPaging .sv39 => "goto_sv39"
  | setPaging .sv48 => "goto_sv48"
  | setPageAccess => "write_mxr_sum"
  | exchangeMprv => "read_write_mprv"
  | goto .machine => "goto_m_mode"
  | goto .supervisor => "goto_s_mode"
  | goto .user => "goto_u_mode"
  | setPmpConfig n => "write_pmpcfg_" ++ toString n.toNat
  | setPmpAddress n => "write_pmpaddr_" ++ toString n.toNat

/-- The structural text of the routine. -/
def inspect : Routine → String
  | store width => "Write" ++ width.digits
  | load width => "Read" ++ width.digits
  | fetch => "Executable"
  | finish => "Terminate"
  | setPaging .bare => "GotoBaremetal"
  | setPaging .sv39 => "GotoSv39"
  | setPaging .sv48 => "GotoSv48"
  | setPageAccess => "WriteMxrSum"
  | exchangeMprv => "ReadWriteMprv"
  | goto .machine => "GotoMMode"
  | goto .supervisor => "GotoSMode"
  | goto .user => "GotoUMode"
  | setPmpConfig n => Inspect.tuple "WritePmpcfg" [toString n.toNat]
  | setPmpAddress n => Inspect.tuple "WritePmpaddr" [toString n.toNat]

/-- The routines of a test program in the order in which it lays them out. -/
def all : List Routine :=
  [store .bits64, store .bits32, store .bits16, store .bits8,
    load .bits64, load .bits32, load .bits16, load .bits8,
    fetch, finish, setPaging .bare, setPaging .sv39, setPaging .sv48, setPageAccess, exchangeMprv,
    goto .machine, goto .supervisor, goto .user, setPmpConfig 0, setPmpConfig 2] ++
  (List.range 16).map fun n => setPmpAddress (BitVec.ofNat 8 n)

/-- The routine of a test program with the given symbol. -/
def ofName? (name : String) : Option Routine :=
  all.find? (·.name == name)

end Routine

end HartTraps
