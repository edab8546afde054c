import HartTraps.Session.Task

/-!
# The history of a session

A history lists what the operations of a session brought about, in order: which handlers were
installed, which traps were accepted, and which words the host and the routines of a test table
appended to the log. It is read off the answers, not off the log.
-/

namespace HartTraps

/-- One entry of a history. -/
inductive Event where
  | installed (level : TrapLevel)
  | trapped (level : TrapLevel) (trap : Trap)
  | appended (w : Word)
  deriving DecidableEq

/-- The word that an event should leave in the log. -/
def Event.word? (recordCauses : Bool) : Event → Option Word
  | installed _ => none
  | trapped _ trap => if recordCauses then some trap.cause.raw else none
  | appended w => some w

namespace Bench

/-- A trap counts if it is accepted. -/
def trapEvents (trap : Trap) (b : Bench) : List Event :=
  match (raise trap b).result with
  | .ok _ => [.trapped (b.hart.trapLevel trap) trap]
  | .error _ => []

/-- A call is a trap from the hart's mode and pc with the request in the argument registers. -/
def callEvents (r : CallRequest) (b : Bench) : List Event :=
  trapEvents (.environmentCall b.hart.mode b.hart.pc) (b.setRequest r)

/-- A word counts if it is appended. -/
def appendEvents (w : Word) (b : Bench) : List Event :=
  match (append w b).result with
  | .ok _ => [.appended w]
  | .error _ => []

/-- The mode changes of a test table are calls, and some routines report a word. -/
def routineEvents (case : TestCase) (b : Bench) : Routine → List Event
  | .goto target =>
    callEvents { op := (CallOp.goto target).code, page := case.address, pageType := case.value } b
  | .finish => callEvents closingRequest b
  | .exchangeMprv => appendEvents ((b.hart.csrs.read .mstatus &&& Status.mprv) >>> 17) b
  | .setPmpConfig _ | .setPmpAddress _ => appendEvents case.value b
  | _ => []

end Bench

namespace Operation

/-- The events of an operation other than a script, which has those of its course. -/
def ownEvents : Operation → Bench → List Event
  | install mode _ _, _ => mode.handlerLevel?.toList.map .installed
  | raise trap, b => Bench.trapEvents trap b
  | call request, b => Bench.callEvents request b
  | terminate, b => Bench.callEvents Bench.closingRequest b
  | append w, b => Bench.appendEvents w b
  | runCase case routine, b => Bench.routineEvents case b routine
  | _, _ => []

/-- The events of operations that are carried out one after the other. -/
def ownHistory : List Operation → Bench → List Event
  | [], _ => []
  | operation :: rest, b => operation.ownEvents b ++ ownHistory rest (operation.perform b).state

/-- The events of an operation. -/
def events (operation : Operation) (b : Bench) : List Event :=
  ownHistory (operation.course b) b

/-- The history of a session. -/
def history : List Operation → Bench → List Event
  | [], _ => []
  | operation :: rest, b => operation.events b ++ history rest (operation.perform b).state

end Operation

end HartTraps
