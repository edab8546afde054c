import HartTraps.Dispatch
import HartTraps.Frame
import HartTraps.Hart
import HartTraps.Log
import HartTraps.Settings
import HartTraps.Text.Inspect

/-!
# The bench

A bench owns a hart, the frames of its trap handlers and a result log. It runs the interrupted
program while its phase is idle; a trap takes it through the phases of a handler, and a halted
bench stays halted.
-/

namespace HartTraps

/-- Why a run ended. -/
inductive Verdict where
  /-- The program asked for a pass, or its last case ended the run. -/
  | pass
  /-- The program asked for a failure with this code. -/
  | fail (code : Word)
  /-- A trap with this raw cause was not expected. -/
  | fatal (cause : Word)
  deriving DecidableEq

namespace Verdict

/-- The value that the surrounding framework gets at the end of a run. -/
def payload : Verdict → Word
  | pass => 0
  | fail code => code
  | fatal cause => cause

/-- The structural text of a verdict. -/
def inspect : Verdict → String
  | pass => "Pass"
  | fail code => Inspect.tuple "Fail" [toString code.toNat]
  | fatal cause => Inspect.tuple "Fatal" [toString cause.toNat]

/-- Whether the run passed. -/
def isPass (v : Verdict) : Bool := v = pass

end Verdict

/-- Where a bench is in the life of a trap. -/
inductive Phase where
  /-- The interrupted program runs. -/
  | idle
  /-- The handler of this mode owns the trap. -/
  | dispatched (level : Mode)
  /-- The handler of this mode is returning. -/
  | resuming (level : Mode)
  /-- The run has ended. -/
  | halted (verdict : Verdict)
  deriving DecidableEq

/-- The structural text of a phase. -/
def Phase.inspect : Phase → String
  | idle => "Idle"
  | dispatched level => Inspect.tuple "Dispatched" [level.name]
  | resuming level => Inspect.tuple "Resuming" [level.name]
  | halted verdict => Inspect.tuple "Halted" [verdict.inspect]

/-- What became of one trap. -/
inductive Outcome where
  /-- The program goes on at this pc in this mode. -/
  | resumed (pc : Word) (mode : Mode)
  /-- The run ended. -/
  | halted (verdict : Verdict)
  deriving DecidableEq

/-- A hart with its trap handlers and result log. -/
structure Bench where
  hart : Hart
  log : Log
  settings : Settings
  /-- The frame of the Machine handler, once it is installed. -/
  machineFrame : Option TrapFrame
  /-- The frame of the Supervisor handler, once it is installed. -/
  supervisorFrame : Option TrapFrame
  phase : Phase
  /-- The Machine trap vector that was found when the Machine handler was installed. -/
  defaultVector : Word
  deriving DecidableEq

namespace Bench

/-- A bench before its first instruction: no handler is installed and the log is empty. -/
def start (settings : Settings) : Bench :=
  { hart := .reset settings.entryPc
    log := .empty settings.logCapacity settings.virtualLogBase settings.physicalLogBase
    settings
    machineFrame := none
    supervisorFrame := none
    phase := .idle
    defaultVector := 0 }

/-- The verdict of a run that has ended. -/
def verdict? (b : Bench) : Option Verdict :=
  match b.phase with
  | .halted v => some v
  | _ => none

theorem verdict?_eq_some_iff {b : Bench} {v : Verdict} : b.verdict? = some v ↔ b.phase = .halted v := by
  unfold verdict?
  cases b.phase <;> simp

/-- The payload of a run that has ended, 0 before. -/
def payload (b : Bench) : Word :=
  match b.verdict? with
  | some v => v.payload
  | none => 0

/-- The frame of a level's handler, if one is installed. -/
def frame? (b : Bench) : TrapLevel → Option TrapFrame
  | .machine => b.machineFrame
  | .supervisor => b.supervisorFrame

/-- Stores the frame of a level's handler. -/
def setFrame (b : Bench) (level : TrapLevel) (f : TrapFrame) : Bench :=
  match level with
  | .machine => { b with machineFrame := some f }
  | .supervisor => { b with supervisorFrame := some f }

@[simp] theorem hart_setFrame (b : Bench) (level : TrapLevel) (f : TrapFrame) :
    (b.setFrame level f).hart = b.hart := by
  cases level <;> rfl

@[simp] theorem log_setFrame (b : Bench) (level : TrapLevel) (f : TrapFrame) :
    (b.setFrame level f).log = b.log := by
  cases level <;> rfl

@[simp] theorem settings_setFrame (b : Bench) (level : TrapLevel) (f : TrapFrame) :
    (b.setFrame level f).settings = b.settings := by
  cases level <;> rfl

@[simp] theorem phase_setFrame (b : Bench) (level : TrapLevel) (f : TrapFrame) :
    (b.setFrame level f).phase = b.phase := by
  cases level <;> rfl

@[simp] theorem defaultVector_setFrame (b : Bench) (level : TrapLevel) (f : TrapFrame) :
    (b.setFrame level f).defaultVector = b.defaultVector := by
  cases level <;> rfl

@[simp] theorem frame?_setFrame_self (b : Bench) (level : TrapLevel) (f : TrapFrame) :
    (b.setFrame level f).frame? level = some f := by
  cases level <;> rfl

theorem frame?_setFrame_of_ne (b : Bench) {level other : TrapLevel} (f : TrapFrame)
    (h : other ≠ level) : (b.setFrame level f).frame? other = b.frame? other := by
  cases level <;> cases other
  · exact absurd rfl h
  · rfl
  · rfl
  · exact absurd rfl h

end Bench

end HartTraps
