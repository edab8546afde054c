import HartTraps.Bench.Call
import HartTraps.Bench.Setup
import HartTraps.Script.Parser

/-!
# Playing scripts

A script is played command by command until the run ends; what stands after that is skipped. Traps,
calls and the end of the run are reported with their line.
-/

namespace HartTraps.Script

/-- What became of the trap that a line took. -/
structure Report where
  line : Nat
  outcome : Outcome
  deriving DecidableEq

/-- A fault as an error of a bench. -/
def Fault.error (fault : Fault) : BenchError :=
  .script fault.line fault.problem

/-- The trap of a trap command when the hart is in a mode at a pc. -/
def trapAt (mode : Mode) (pc : Word) (cause : Word) (address : Option Word)
    (instruction : Option (BitVec 32)) : Trap :=
  { cause := ⟨cause⟩, origin := mode, pc, address, instruction }

/-- Carries out a command; commands that take a trap give its outcome. -/
def Command.play : Command → Run Bench (Option Outcome)
  | install level base vectoring => do
    Bench.install level base vectoring
    return none
  | delegate exceptions interrupts => do
    Run.modify (·.delegate exceptions interrupts)
    return none
  | mode m => do
    Run.modify (·.setMode m)
    return none
  | pc w => do
    Run.modify (·.setPc w)
    return none
  | register r w => do
    Run.modify (·.setRegister r w)
    return none
  | log w => do
    Bench.append w
    return none
  | trap cause address instruction => do
    let b ← Run.get
    let outcome ← Bench.raise (trapAt b.hart.mode b.hart.pc cause address instruction)
    return some outcome
  | call op page pageType => do
    let outcome ← Bench.call { op, page, pageType }
    return some outcome
  | terminate => do
    let outcome ← Bench.terminate
    return some outcome

section Traps

variable (b : Bench)

theorem Command.play_trap (cause : Word) (address : Option Word) (instruction : Option (BitVec 32)) :
    (trap cause address instruction).play b =
      (some <$> Bench.raise (trapAt b.hart.mode b.hart.pc cause address instruction)) b := by
  simp only [play, bind_pure_comp]
  rw [Run.bind_apply_of_ok (a := b) rfl]
  rfl

theorem Command.play_call (op page pageType : Word) :
    (call op page pageType).play b = (some <$> Bench.call { op, page, pageType }) b := by
  simp only [play, bind_pure_comp]

theorem Command.play_terminate : Command.terminate.play b = (some <$> Bench.terminate) b := by
  simp only [play, bind_pure_comp]

end Traps

/-- Plays the lines of a script in order. -/
def play : List Line → Run Bench (List Report)
  | [] => return []
  | line :: rest => do
    match (← Run.get).verdict? with
    | some _ =>
      Run.note (.scriptCut line.number)
      return []
    | none =>
      match ← line.command.play with
      | some outcome => ({ line := line.number, outcome } :: ·) <$> play rest
      | none => play rest

/-- The reports about a command on a line. -/
def reports (line : Nat) (outcome : Option Outcome) : List Report :=
  outcome.toList.map fun outcome => { line, outcome }

section Cons

variable {line : Line} {rest : List Line} {b : Bench}

theorem play_of_verdict {v : Verdict} (ended : b.verdict? = some v) :
    play (line :: rest) b = ⟨.ok [], b, [.scriptCut line.number]⟩ := by
  rw [play, Run.bind_apply_of_ok (a := b) rfl]
  simp only [Run.get, ended]
  rfl

theorem play_of_error {e : BenchError} (running : b.verdict? = none)
    (refused : (line.command.play b).result = .error e) :
    play (line :: rest) b = ⟨.error e, (line.command.play b).state, (line.command.play b).notes⟩ := by
  rw [play, Run.bind_apply_of_ok (a := b) rfl]
  simp only [Run.get, running, Run.bind_apply_of_error refused, List.nil_append]

theorem play_of_ok {outcome : Option Outcome} (running : b.verdict? = none)
    (done : (line.command.play b).result = .ok outcome) :
    play (line :: rest) b =
      ⟨(play rest (line.command.play b).state).result.map (reports line.number outcome ++ ·),
        (play rest (line.command.play b).state).state,
        (line.command.play b).notes ++ (play rest (line.command.play b).state).notes⟩ := by
  rw [play, Run.bind_apply_of_ok (a := b) rfl]
  simp only [Run.get, running, Run.bind_apply_of_ok done, List.nil_append]
  cases outcome with
  | some outcome => rfl
  | none =>
    cases (play rest (line.command.play b).state).result <;> rfl

end Cons

/-- A script is played line by line until it ends, the run has ended, or a command fails. -/
@[elab_as_elim]
theorem play_induction {motive : List Line → Bench → Prop}
    (nil : ∀ b, motive [] b)
    (ended : ∀ line rest b v, b.verdict? = some v → motive (line :: rest) b)
    (failed : ∀ line rest b e, b.verdict? = none → (line.command.play b).result = .error e →
      motive (line :: rest) b)
    (done : ∀ line rest b outcome, b.verdict? = none → (line.command.play b).result = .ok outcome →
      motive rest (line.command.play b).state → motive (line :: rest) b)
    (script : List Line) (b : Bench) : motive script b := by
  induction script generalizing b with
  | nil => exact nil b
  | cons line rest ih =>
    cases running : b.verdict? with
    | some v => exact ended line rest b v running
    | none =>
      cases answer : (line.command.play b).result with
      | error e => exact failed line rest b e running answer
      | ok outcome => exact done line rest b outcome running answer (ih _)

end HartTraps.Script
