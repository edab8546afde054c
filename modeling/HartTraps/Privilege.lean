import HartTraps.Bytes.Codec

/-!
# Privilege modes

A hart runs in one of three modes. Traps are taken by a handler at Machine or Supervisor level
only, which is a type of its own: User mode owns no handler.
-/

namespace HartTraps

/-- The privilege mode of a hart, least privileged first. -/
inductive Mode where
  | user
  | supervisor
  | machine
  deriving DecidableEq

/-- A level whose handler can take a trap. -/
inductive TrapLevel where
  | machine
  | supervisor
  deriving DecidableEq

namespace Mode

/-- The name of the mode in reports. -/
def name : Mode → String
  | user => "User"
  | supervisor => "Supervisor"
  | machine => "Machine"

/-- The two-bit code of a mode in a status field. -/
def code : Mode → Word
  | user => 0
  | supervisor => 1
  | machine => 3

/-- The mode with the two low bits of `bits` as its code; the reserved code 2 means Machine. -/
def ofCode (bits : Word) : Mode :=
  if bits &&& 3 = 0 then user else if bits &&& 3 = 1 then supervisor else machine

/-- A mode is spelled by its initial, in either case. -/
def ofLetter? : List Char → Option Mode
  | ['m'] | ['M'] => some machine
  | ['s'] | ['S'] => some supervisor
  | ['u'] | ['U'] => some user
  | _ => none

/-- The level whose trap registers describe traps into this mode; User shares those of Supervisor. -/
def trapLevel : Mode → TrapLevel
  | machine => .machine
  | _ => .supervisor

/-- The handler level that is this mode, if it can own a handler. -/
def handlerLevel? : Mode → Option TrapLevel
  | machine => some .machine
  | supervisor => some .supervisor
  | user => none

@[simp] theorem ofCode_code (m : Mode) : ofCode m.code = m := by
  cases m <;> rfl

end Mode

namespace TrapLevel

/-- The mode in which a handler at this level runs. -/
def mode : TrapLevel → Mode
  | machine => .machine
  | supervisor => .supervisor

/-- The name of the level in reports. -/
def name (level : TrapLevel) : String :=
  level.mode.name

@[simp] theorem handlerLevel?_mode (level : TrapLevel) : level.mode.handlerLevel? = some level := by
  cases level <;> rfl

end TrapLevel

instance : Binary Mode where
  write
    | .user => Binary.writeAlternative 0
    | .supervisor => Binary.writeAlternative 1
    | .machine => Binary.writeAlternative 2
  read := Binary.readAlternative [pure .user, pure .supervisor, pure .machine]

end HartTraps
