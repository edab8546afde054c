import HartTraps.Bench.Handler

/-!
# Raising traps

`Bench.admission` holds every reason for which a trap is refused, in the order in which they count:
the run has ended, a handler is still running, the level that takes the trap has no handler, or the
log has no room for the cause. A trap that is admitted is served to its end.
-/

namespace HartTraps.Bench

/-- The log after a trap with cause `c`: causes are appended if the settings ask for it. -/
def logged? (b : Bench) (c : Cause) : Option Log :=
  if b.settings.recordCauses then b.log.append? c.raw else some b.log

/-- What a trap needs to be taken. -/
structure Admission where
  level : TrapLevel
  frame : TrapFrame
  log : Log

/-- Whether a trap can be taken now, and at which level. -/
def admission (b : Bench) (trap : Trap) : Except BenchError Admission :=
  match b.phase with
  | .halted _ => .error .halted
  | .dispatched level => .error (.nestedTrap level)
  | .resuming level => .error (.nestedTrap level)
  | .idle =>
    let level := b.hart.trapLevel trap
    match b.frame? level with
    | none => .error (.noHandler level)
    | some frame =>
      match b.logged? trap.cause with
      | none => .error (.logFull b.log.capacity)
      | some log => .ok { level, frame, log }

/-- Lets a trap reach the hart without any handler serving it, and says at which level. -/
def enter (trap : Trap) : Run Bench TrapLevel := fun b =>
  let level := b.hart.trapLevel trap
  let hart := b.hart.enter level trap
  ⟨.ok level, { b with hart }, entryNotes level b.hart hart⟩

/-- Takes one trap and serves it; a trap that is not admitted changes nothing. -/
def raise (trap : Trap) : Run Bench Outcome := fun b =>
  match b.admission trap with
  | .error e => ⟨.error e, b, []⟩
  | .ok a =>
    let served := { b with log := a.log }.take a.level a.frame trap
    ⟨.ok served.outcome, served.bench, served.notes⟩

end HartTraps.Bench
