import HartTraps.Bench.Raise

/-!
# Environment calls

A call puts its request into the argument registers and then traps from the current mode and pc; the
registers keep the request even if the trap is refused. Ending a run is a call for Machine mode.
-/

namespace HartTraps.Bench

/-- Puts a request into the argument registers. -/
def setRequest (b : Bench) (r : CallRequest) : Bench :=
  { b with hart := ((b.hart.write .a0 r.op).write .a1 r.page).write .a2 r.pageType }

/-- Calls the environment from the current mode and pc. -/
def call (r : CallRequest) : Run Bench Outcome := do
  Run.modify (·.setRequest r)
  let b ← Run.get
  raise (.environmentCall b.hart.mode b.hart.pc)

theorem call_apply (r : CallRequest) (b : Bench) :
    call r b = raise (.environmentCall b.hart.mode b.hart.pc) (b.setRequest r) := rfl

/-- The request for Machine mode with which a run ends. -/
def closingRequest : CallRequest :=
  { op := (CallOp.goto .machine).code, page := 0, pageType := 0 }

/-- Restores the Machine trap vector and ends the run as passed. -/
def close (b : Bench) : Bench :=
  { b with hart := b.hart.writeCsr .mtvec b.defaultVector, phase := .halted .pass }

/-- Ends the run: asks for Machine mode, restores the Machine trap vector and halts. A call that
already halts the run is left at that. -/
def terminate : Run Bench Outcome := do
  let outcome ← call closingRequest
  match outcome with
  | .halted _ => return outcome
  | .resumed _ mode =>
    Run.modify close
    Run.note (.terminated mode)
    return .halted .pass

theorem terminate_of_resumed {b : Bench} {pc : Word} {mode : Mode}
    (resumed : (call closingRequest b).result = .ok (.resumed pc mode)) :
    terminate b = ⟨.ok (.halted .pass), (call closingRequest b).state.close,
      (call closingRequest b).notes ++ [.terminated mode]⟩ := by
  unfold terminate
  rw [Run.bind_apply_of_ok resumed]
  rfl

theorem terminate_of_halted {b : Bench} {v : Verdict}
    (halted : (call closingRequest b).result = .ok (.halted v)) :
    terminate b = ⟨.ok (.halted v), (call closingRequest b).state,
      (call closingRequest b).notes⟩ := by
  unfold terminate
  rw [Run.bind_apply_of_ok halted]
  simp only [Run.pure_apply, List.append_nil]

theorem terminate_of_error {b : Bench} {e : BenchError}
    (refused : (call closingRequest b).result = .error e) :
    terminate b = ⟨.error e, (call closingRequest b).state, (call closingRequest b).notes⟩ := by
  unfold terminate
  rw [Run.bind_apply_of_error refused]

end HartTraps.Bench
