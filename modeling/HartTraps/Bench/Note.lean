import HartTraps.Bench.Basic
import HartTraps.Page
import HartTraps.TestTable.Record
import HartTraps.TestTable.Routine
import HartTraps.Text.Hex

/-!
# Diagnostic notes

A bench leaves a note at each step of a trap and at each decision that a reader of a run may want to
follow. Notes are values; `Note.severity` and `Note.text` say how they are shown.
-/

namespace HartTraps

/-- How much a note matters. -/
inductive Severity where
  | trace
  | debug
  | info
  | warn
  deriving DecidableEq

/-- The name of a severity in reports. -/
def Severity.name : Severity → String
  | trace => "TRACE"
  | debug => "DEBUG"
  | info => "INFO"
  | warn => "WARN"

/-- One diagnostic note. -/
inductive Note where
  /-- A trap reaches a level, with this machine status before its entry. -/
  | entering (level : TrapLevel) (status : Word)
  /-- A trap has reached a level, with this machine status after its entry. -/
  | entered (level : TrapLevel) (status : Word)
  | installed (level : TrapLevel) (base : Word) (vectoring : Vectoring)
  | responding (trap : Trap) (level : TrapLevel) (response : Response)
  | unexpected (trap : Trap)
  | ended (verdict : Verdict)
  | unsupportedCall (op : Word)
  /-- A level cannot hold the requested mode as its previous privilege. -/
  | privilegeKept (level : TrapLevel) (target : Mode)
  | moved (size : PageSize) (page ret ra t0 cursor : Word)
  | unknownPageType (code : Word)
  | returned (level : TrapLevel) (pc : Word) (mode : Mode)
  | terminated (mode : Mode)
  | scriptCut (line : Nat)
  | caseStarted (index : Nat) (case : TestCase) (routine : Routine)
  deriving DecidableEq

namespace Note

/-- The severity of a note. -/
def severity : Note → Severity
  | entering .. | entered .. | returned .. => .trace
  | installed .. | responding .. | ended _ | moved .. | caseStarted .. => .debug
  | unexpected _ | terminated _ => .info
  | unsupportedCall _ | privilegeKept .. | unknownPageType _ | scriptCut _ => .warn

/-- A word in hexadecimal. -/
def hex (w : Word) : String :=
  Hex.number w.toNat

/-- The wording of a note. -/
def text : Note → String
  | entering level status =>
    "Trap to " ++ level.name ++ ": mstatus_before=" ++ Hex.digits status.toNat
  | entered level status =>
    "Trap to " ++ level.name ++ ": mstatus_after=" ++ Hex.digits status.toNat
  | installed level base vectoring =>
    "Installed " ++ level.name ++ " handler at " ++ hex base ++ " (" ++ vectoring.name ++ ")"
  | responding trap level response =>
    trap.cause.name ++ " at " ++ hex trap.pc ++ " from " ++ trap.origin.name ++ ", " ++
      level.name ++ " handler: " ++ response.name
  | unexpected trap => "Unexpected " ++ trap.cause.name ++ " at " ++ hex trap.pc ++ "; halting"
  | ended verdict => "Halted: " ++ verdict.inspect
  | unsupportedCall op => "Ignoring unsupported ecall op " ++ hex op
  | privilegeKept level target =>
    level.name ++ " handler cannot return to " ++ target.name ++ "; previous privilege unchanged"
  | moved size page ret ra t0 cursor =>
    "Relocated into " ++ size.name ++ " page " ++ hex page ++ ": ret=" ++ hex ret ++ " ra=" ++
      hex ra ++ " t0=" ++ hex t0 ++ " log=" ++ hex cursor
  | unknownPageType code =>
    "Unknown page type " ++ toString code.toNat ++ "; resuming without relocation"
  | returned level pc mode =>
    level.name ++ " handler returned to " ++ mode.name ++ " at " ++ hex pc
  | terminated mode => "Run terminated in " ++ mode.name ++ " mode"
  | scriptCut line => "Harness halted; skipping script from line " ++ toString line
  | caseStarted index case routine =>
    "Case " ++ toString index ++ ": " ++ routine.name ++ " address=" ++ hex case.address ++
      " value=" ++ hex case.value

/-- A note as one line of a diagnostic listing. -/
def render (n : Note) : String :=
  n.severity.name ++ " " ++ n.text

end Note

end HartTraps
