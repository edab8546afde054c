import HartTraps.Cause

/-!
# Dispatch of traps to responses

A handler answers each cause with one of four responses. The two low bits of the trap vector choose
whether interrupts enter through a table. Whatever the handler does not expect halts the run.
-/

namespace HartTraps

/-- How a trap vector routes interrupts. -/
inductive Vectoring where
  /-- Every trap enters at the base. -/
  | direct
  /-- Interrupts enter through a table. -/
  | vectored
  deriving DecidableEq

namespace Vectoring

/-- The name of the vector mode in reports. -/
def name : Vectoring → String
  | direct => "Direct"
  | vectored => "Vectored"

/-- The low bits that select the vector mode. -/
def bits : Vectoring → Word
  | direct => 0
  | vectored => 1

/-- The vector mode of a trap vector; only the low bits 1 select the table. -/
def ofVector (vector : Word) : Vectoring :=
  if vector &&& 3 = 1 then vectored else direct

/-- The trap vector with the given base, whose low bits are dropped. -/
def vector (mode : Vectoring) (base : Word) : Word :=
  (base &&& ~~~3) ||| mode.bits

end Vectoring

/-- What a handler does about a trap. -/
inductive Response where
  /-- Ends the run with the cause as its verdict. -/
  | halt
  /-- Resumes after the trapping instruction. -/
  | resumeNext
  /-- Resumes at the caller of the code that could not be fetched. -/
  | resumeCaller
  /-- Carries out the request in the argument registers. -/
  | serveCall
  deriving DecidableEq

/-- The name of the response in reports. -/
def Response.name : Response → String
  | halt => "Fatal"
  | resumeNext => "PlainResume"
  | resumeCaller => "ResumeAfterAdjust"
  | serveCall => "Ecall"

/-- The response to an exception with an assigned code. -/
def Exception.response : Exception → Response
  | illegalInstruction | loadAccess | storeAccess | loadPage | storePage => .resumeNext
  | fetchAccess | fetchPage => .resumeCaller
  | callFromUser | callFromSupervisor | callFromMachine => .serveCall
  | fetchMisaligned | breakpoint | loadMisaligned | storeMisaligned => .halt

namespace Cause

/-- Whether the interrupt table has a handler for a code: the assigned ones, and the entry at 0. -/
def isTabled (code : Word) : Bool :=
  code = 0 || (Interrupt.ofCode? code).isSome

/-- The response to a cause under a vector mode. -/
def response (c : Cause) (vectoring : Vectoring) : Response :=
  if c.isInterrupt then
    match vectoring with
    | .direct => .resumeNext
    | .vectored => if isTabled c.code then .resumeNext else .halt
  else
    match Exception.ofCode? c.code with
    | some e => e.response
    | none => .halt

end Cause

end HartTraps
