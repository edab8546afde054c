import HartTraps.Dispatch
import HartTraps.Privilege
import HartTraps.Register
import HartTraps.Text.Inspect

/-!
# Script commands

A script is a list of commands, each with the number of the line on which it stands.
-/

namespace HartTraps.Script

/-- One command of a script. -/
inductive Command where
  | install (level : Mode) (base : Word) (vectoring : Vectoring)
  | delegate (exceptions interrupts : Word)
  | mode (m : Mode)
  | pc (w : Word)
  | register (r : Register) (w : Word)
  | trap (cause : Word) (address : Option Word) (instruction : Option (BitVec 32))
  | call (op page pageType : Word)
  | log (w : Word)
  | terminate
  deriving DecidableEq

/-- A command on its line; lines are counted from 1. -/
structure Line where
  number : Nat
  command : Command
  deriving DecidableEq

/-- A number as it stands in structural text. -/
def decimal {n : Nat} (w : BitVec n) : String :=
  toString w.toNat

/-- The structural text of a command. -/
def Command.inspect : Command → String
  | install level base vectoring =>
    Inspect.record "Install"
      [("level", level.name), ("base", decimal base), ("vector", vectoring.name)]
  | delegate exceptions interrupts =>
    Inspect.record "Delegate" [("medeleg", decimal exceptions), ("mideleg", decimal interrupts)]
  | mode m => Inspect.tuple "Mode" [m.name]
  | pc w => Inspect.tuple "Pc" [decimal w]
  | register r w => Inspect.tuple "Reg" [r.name, decimal w]
  | trap cause address instruction =>
    Inspect.record "Trap"
      [("cause", decimal cause), ("tval", Inspect.option (address.map decimal)),
        ("instruction", Inspect.option (instruction.map decimal))]
  | call op page pageType =>
    Inspect.record "Ecall"
      [("op", decimal op), ("target_vpn", decimal page), ("page_type", decimal pageType)]
  | log w => Inspect.tuple "Log" [decimal w]
  | terminate => "Terminate"

/-- The structural text of a script. -/
def inspect (lines : List Line) : String :=
  Inspect.record "Script"
    [("commands", Inspect.list (lines.map fun line =>
      Inspect.tuple "" [toString line.number, line.command.inspect]))]

end HartTraps.Script
