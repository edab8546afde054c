import HartTraps.Bench.Call
import HartTraps.Proofs.Trap.Admission

/-!
# What a trap leaves alone

A handler works on the hart, on the phase, on the frame of its own level and on the virtual view of
the log. Whatever its response, it comes to rest: the program runs again, or the run has ended.
-/

namespace HartTraps

/-- The phase in which a trap with this outcome leaves the bench. -/
def Outcome.phase : Outcome → Phase
  | .resumed _ _ => .idle
  | .halted v => .halted v

namespace Bench

/-- The benches differ at most in the hart, the phase, the frame of `level` and the virtual view. -/
structure Keeps (level : TrapLevel) (b c : Bench) : Prop where
  settings : c.settings = b.settings
  defaultVector : c.defaultVector = b.defaultVector
  log : ∃ base, c.log = { b.log with virtualBase := base }
  frame? : ∀ other, other ≠ level → c.frame? other = b.frame? other

namespace Keeps

variable {level : TrapLevel} {a b c : Bench}

/-- A bench with another hart and phase. -/
theorem of_hart (b : Bench) (hart : Hart) (phase : Phase) : Keeps level b { b with hart, phase } :=
  ⟨rfl, rfl, ⟨b.log.virtualBase, rfl⟩, fun other _ => by cases other <;> rfl⟩

theorem setFrame (b : Bench) (f : TrapFrame) : Keeps level b (b.setFrame level f) :=
  ⟨settings_setFrame b level f, defaultVector_setFrame b level f,
    ⟨b.log.virtualBase, log_setFrame b level f⟩, fun _ ne => frame?_setFrame_of_ne b f ne⟩

theorem rebase (b : Bench) (cursor : Word) : Keeps level b { b with log := b.log.rebase cursor } :=
  ⟨rfl, rfl, ⟨_, rfl⟩, fun other _ => by cases other <;> rfl⟩

theorem trans (first : Keeps level a b) (second : Keeps level b c) : Keeps level a c := by
  obtain ⟨base, log⟩ := first.log
  obtain ⟨moved, log'⟩ := second.log
  refine ⟨second.settings.trans first.settings, second.defaultVector.trans first.defaultVector,
    ⟨moved, ?_⟩, fun other ne => (second.frame? other ne).trans (first.frame? other ne)⟩
  rw [log', log]

end Keeps

end Bench

/-- The handler of `level` has come to rest, and its frame counts `n` traps. -/
structure Served.Settles (s : Served) (b : Bench) (level : TrapLevel) (n : Word) : Prop where
  keeps : b.Keeps level s.bench
  counted : ∃ f, s.bench.frame? level = some f ∧ f.trapsTaken = n
  phase : s.bench.phase = s.outcome.phase

namespace Served.Settles

variable {s : Served} {b c : Bench} {level : TrapLevel} {n : Word}

theorem of_keeps (settles : s.Settles c level n) (keeps : b.Keeps level c) : s.Settles b level n :=
  ⟨keeps.trans settles.keeps, settles.counted, settles.phase⟩

theorem after (settles : s.Settles b level n) (notes : List Note) :
    (s.after notes).Settles b level n :=
  ⟨settles.keeps, settles.counted, settles.phase⟩

end Served.Settles

namespace Bench

variable (b : Bench) (level : TrapLevel) (f : TrapFrame)

theorem halt_settles {b : Bench} {level : TrapLevel} {f : TrapFrame}
    (held : b.frame? level = some f) (v : Verdict) :
    (b.halt v).Settles b level f.trapsTaken := by
  refine ⟨.of_hart b b.hart (.halted v), ⟨f, ?_, rfl⟩, rfl⟩
  rw [← held]
  cases level <;> rfl

theorem leave_settles (ret : Word) : (b.leave level f ret).Settles b level f.trapsTaken := by
  unfold leave
  have keeps : b.Keeps level (b.setFrame level { f with resumeAddress := ret }) := .setFrame b _
  refine ⟨keeps.trans (.of_hart _ _ .idle), ⟨{ f with resumeAddress := ret }, ?_, rfl⟩, rfl⟩
  cases level <;> rfl

theorem leaveMoved_settles (move : Move) (next : Word) :
    (b.leaveMoved level f move next).Settles b level f.trapsTaken := by
  unfold leaveMoved
  split
  · next size _ =>
    refine ((leave_settles _ level _ _).of_keeps ?_).after _
    exact (Keeps.rebase b (size.relocate b.log.virtualCursor move.page)).trans (.of_hart _ _ b.phase)
  · exact ((leave_settles _ level _ _).of_keeps (.of_hart b _ b.phase)).after _

theorem resume_settles (move : Option Move) :
    (b.resume level f move).Settles b level f.trapsTaken := by
  unfold resume
  cases move with
  | none => exact leave_settles b level f _
  | some move =>
    dsimp only
    split
    · exact leave_settles b level f _
    · exact leaveMoved_settles b level f move _

theorem serveGoto_settles (target : Mode) (move : Move) :
    (b.serveGoto level f target move).Settles b level f.trapsTaken := by
  unfold serveGoto
  split
  · next hart _ => exact (resume_settles _ level f _).of_keeps (.of_hart b hart _)
  · exact ((resume_settles _ level f _).of_keeps (.of_hart b b.hart _)).after _

section Held

variable {b level f} (held : b.frame? level = some f)

include held

theorem serveCall_settles (request : CallRequest) :
    (b.serveCall level f request).Settles b level f.trapsTaken := by
  unfold serveCall
  split
  · exact halt_settles held _
  · exact halt_settles held _
  · exact serveGoto_settles b level f _ _
  · exact ((resume_settles _ level f none).of_keeps (.of_hart b b.hart _)).after _

/-- Every response brings the handler to rest. -/
theorem serve_settles (trap : Trap) (request : CallRequest) (response : Response) :
    (b.serve level f trap request response).Settles b level f.trapsTaken := by
  cases response with
  | halt => exact (halt_settles held _).after _
  | resumeNext => exact (resume_settles _ level f none).of_keeps (.of_hart b b.hart _)
  | resumeCaller => exact (leave_settles _ level f _).of_keeps (.of_hart b b.hart _)
  | serveCall => exact serveCall_settles held request

end Held

/-- A trap that is taken is counted and served to its end. -/
theorem take_settles (trap : Trap) :
    (b.take level f trap).Settles b level (f.trapsTaken + 1) := by
  have held : (b.dispatch level f trap).frame? level = some (f.next (b.hart.enter level trap) trap) := by
    cases level <;> rfl
  have keeps : b.Keeps level (b.dispatch level f trap) :=
    (Keeps.setFrame b _).trans (.of_hart _ _ (.dispatched level.mode))
  exact ((serve_settles held trap _ _).of_keeps keeps).after _

/-- An accepted trap leaves the bench in the phase of its outcome. -/
theorem phase_of_raise {b : Bench} {trap : Trap} {outcome : Outcome}
    (accepted : (raise trap b).result = .ok outcome) :
    (raise trap b).state.phase = outcome.phase := by
  obtain ⟨a, -, served, state⟩ := admits_of_raise accepted
  rw [state, ← served]
  exact (take_settles _ a.level a.frame trap).phase

/-- The end of a run does what its call does, and closes the run if the call comes back. -/
theorem state_terminate_cases (b : Bench) :
    (terminate b).state = (call closingRequest b).state ∨
      (call closingRequest b).state.phase = .idle ∧
        (terminate b).state = (call closingRequest b).state.close := by
  cases answer : (call closingRequest b).result with
  | error e => exact .inl (by rw [terminate_of_error answer])
  | ok outcome =>
    cases outcome with
    | halted v => exact .inl (by rw [terminate_of_halted answer])
    | resumed pc mode =>
      have idle : (call closingRequest b).state.phase = .idle := phase_of_raise answer
      exact .inr ⟨idle, by rw [terminate_of_resumed answer]⟩

end Bench

end HartTraps
