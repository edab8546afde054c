import HartTraps.Bench.Run

/-!
# Trap handlers

A handler takes a dispatched trap to its end: it halts the run, or it returns to the interrupted
program, to the caller of that program or, on request, to another mode and page. Each function
below is one stage; a stage says what became of the trap, which bench it leaves and which notes it
took.
-/

namespace HartTraps

/-- What a handler did about a trap. -/
structure Served where
  outcome : Outcome
  bench : Bench
  notes : List Note

/-- The same deed with notes that were taken before. -/
def Served.after (s : Served) (notes : List Note) : Served :=
  { s with notes := notes ++ s.notes }

@[simp] theorem Served.outcome_after (s : Served) (notes : List Note) :
    (s.after notes).outcome = s.outcome := rfl

@[simp] theorem Served.bench_after (s : Served) (notes : List Note) :
    (s.after notes).bench = s.bench := rfl

/-- A request to resume in another page. -/
structure Move where
  /-- The base of the page; 0 asks for no move. -/
  page : Word
  pageType : Word

/-- The request in the argument registers. -/
def Hart.request (h : Hart) : CallRequest :=
  { op := h.read .a0, page := h.read .a1, pageType := h.read .a2 }

/-- The frame after another trap, which the hart has just entered. -/
def TrapFrame.next (f : TrapFrame) (h : Hart) (trap : Trap) : TrapFrame :=
  { f with
    saved := { ra := h.read .ra, t0 := h.read .t0 }
    pending := some h.request
    instruction := trap.instruction
    trapsTaken := f.trapsTaken + 1 }

namespace Bench

/-- Ends the run. -/
def halt (b : Bench) (v : Verdict) : Served :=
  { outcome := .halted v, bench := { b with phase := .halted v }, notes := [.ended v] }

/-- The handler is about to return. -/
def beginReturn (b : Bench) (level : TrapLevel) : Bench :=
  { b with phase := .resuming level.mode }

/-- Restores the scratch registers and returns to `ret` in the mode that the level's status names. -/
def leave (b : Bench) (level : TrapLevel) (f : TrapFrame) (ret : Word) : Served :=
  let hart := b.hart.writeCsr level.csrs.pc ret
  let hart := ((hart.write .ra f.saved.ra).write .t0 f.saved.t0).leave level
  { outcome := .resumed hart.pc hart.mode
    bench := { b.setFrame level { f with resumeAddress := ret } with hart, phase := .idle }
    notes := [.returned level hart.pc hart.mode] }

/-- Clears the move request in the argument registers. -/
def clearRequest (b : Bench) : Bench :=
  { b with hart := (b.hart.write .a1 0).write .a2 0 }

/-- Returns to `next` after moving every tracked address to another page. All new addresses come
from the old ones, and the request is used up whether or not its page type is known. -/
def leaveMoved (b : Bench) (level : TrapLevel) (f : TrapFrame) (move : Move) (next : Word) : Served :=
  match PageSize.ofCode? move.pageType with
  | some size =>
    let ra := size.relocate f.saved.ra move.page
    let t0 := size.relocate f.saved.t0 move.page
    let cursor := size.relocate b.log.virtualCursor move.page
    let ret := size.relocate next move.page
    let moved := { b with log := b.log.rebase cursor }
    (moved.clearRequest.leave level { f with saved := { ra, t0 }, pending := none } ret).after
      [.moved size move.page ret ra t0 cursor]
  | none =>
    (b.clearRequest.leave level { f with pending := none } next).after
      [.unknownPageType move.pageType]

/-- The address after the trapping instruction. -/
def nextAddress (b : Bench) (level : TrapLevel) (f : TrapFrame) : Word :=
  b.hart.csrs.read level.csrs.pc + b.settings.stepRule.length f.instruction

/-- Returns past the trapping instruction, in place or moved. -/
def resume (b : Bench) (level : TrapLevel) (f : TrapFrame) (move : Option Move) : Served :=
  let next := b.nextAddress level f
  match move with
  | none => b.leave level f next
  | some move => if move.page = 0 then b.leave level f next else b.leaveMoved level f move next

/-- Resumes in another mode. A mode that the level cannot hold is left as it was; the return goes on
all the same. -/
def serveGoto (b : Bench) (level : TrapLevel) (f : TrapFrame) (target : Mode) (move : Move) : Served :=
  match b.hart.setPreviousMode? level target with
  | some hart => ({ b with hart }.beginReturn level).resume level f (some move)
  | none => ((b.beginReturn level).resume level f (some move)).after [.privilegeKept level target]

/-- Carries out the request of an environment call. -/
def serveCall (b : Bench) (level : TrapLevel) (f : TrapFrame) (request : CallRequest) : Served :=
  match CallOp.ofCode? request.op with
  | some .pass => b.halt .pass
  | some .fail => b.halt (.fail request.page)
  | some (.goto target) =>
    b.serveGoto level f target { page := request.page, pageType := request.pageType }
  | none => ((b.beginReturn level).resume level f none).after [.unsupportedCall request.op]

/-- Carries out the response to a dispatched trap. -/
def serve (b : Bench) (level : TrapLevel) (f : TrapFrame) (trap : Trap) (request : CallRequest) :
    Response → Served
  | .halt => (b.halt (.fatal trap.cause.raw)).after [.unexpected trap]
  | .resumeNext => (b.beginReturn level).resume level f none
  | .resumeCaller => (b.beginReturn level).leave level f f.saved.ra
  | .serveCall => b.serveCall level f request

/-- The notes about an entry into `level`. -/
def entryNotes (level : TrapLevel) (before after : Hart) : List Note :=
  [.entering level (before.csrs.read .mstatus), .entered level (after.csrs.read .mstatus)]

/-- The bench once the trap has reached `level`, whose handler has the frame `f`. -/
def dispatch (b : Bench) (level : TrapLevel) (f : TrapFrame) (trap : Trap) : Bench :=
  let hart := b.hart.enter level trap
  { b.setFrame level (f.next hart trap) with hart, phase := .dispatched level.mode }

/-- Takes a trap at `level`, whose handler has the frame `f`, and serves it to its end. -/
def take (b : Bench) (level : TrapLevel) (f : TrapFrame) (trap : Trap) : Served :=
  let hart := b.hart.enter level trap
  let response := trap.cause.response (.ofVector (hart.csrs.read level.csrs.vector))
  ((b.dispatch level f trap).serve level (f.next hart trap) trap hart.request response).after
    (entryNotes level b.hart hart ++ [.responding trap level response])

end Bench

end HartTraps
