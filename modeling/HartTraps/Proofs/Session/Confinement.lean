import HartTraps.Proofs.Trap.Admission
import HartTraps.Proofs.Trap.Ending
import HartTraps.Proofs.Trap.Outcome
import HartTraps.Proofs.Trap.Settle
import HartTraps.Session

/-!
# Confinement below Machine mode

While calls are delegated to Supervisor no program can leave the modes below Machine, whatever it calls
for and whatever it writes into the status register between its traps: a call is served by Supervisor,
which cannot return to Machine, and every other handler returns to the mode that it interrupted. Both
depend on the entry, which overwrites the field that the return reads.
-/

namespace HartTraps

namespace Bench

/-- The calls of every mode are delegated to Supervisor. -/
def DelegatesCalls (b : Bench) : Prop :=
  ∀ code ∈ [8, 9, 11], (b.hart.csrs.read .medeleg).getLsbD code = true

/-- The benches that come from `b` by operations that are permitted when they are carried out. -/
inductive Reaches (permits : Bench → Operation → Prop) (b : Bench) : Bench → Prop where
  | refl : Reaches permits b b
  | step {c : Bench} {o : Operation} (before : Reaches permits b c) (permitted : permits c o) :
      Reaches permits b (o.perform c).state

/-- What a program below Machine mode can do, and a host that leaves its mode and the delegation of its
traps alone. A trap comes from the mode in which the hart is. -/
def Confines (b : Bench) : Operation → Prop
  | .raise t => t.origin = b.hart.mode
  | .setCsr a _ => a ≠ .medeleg
  | .install _ _ _ | .setPc _ | .setRegister _ _ | .call _ | .terminate | .append _ | .rebase _ => True
  | _ => False

/-- The program is below Machine mode when it runs, and its calls are delegated. -/
structure Confined (b : Bench) : Prop where
  delegates : b.DelegatesCalls
  below : b.phase = .idle → b.hart.mode ≠ .machine

end Bench

/-! ## Outcomes below Machine mode -/

namespace Architecture

variable {b : Bench} {t : Trap}

/-- A call that Supervisor serves does not lead to Machine mode. -/
theorem callOutcome_ne_machine (supervisor : level b.hart t = .supervisor)
    (below : t.origin ≠ .machine) (pc : Word) : callOutcome b t ≠ .resumed pc .machine := by
  intro escalated
  unfold callOutcome at escalated
  rw [supervisor] at escalated
  split at escalated
  · cases escalated
  · cases escalated
  · exact below (Outcome.resumed.inj escalated).2
  · cases escalated
  · cases escalated
  · exact below (Outcome.resumed.inj escalated).2

/-- No trap from below Machine mode leads to Machine mode while calls are delegated. -/
theorem outcome_ne_machine (delegates : b.DelegatesCalls) (below : t.origin ≠ .machine) (pc : Word) :
    outcome b t ≠ .resumed pc .machine := by
  intro escalated
  unfold outcome at escalated
  cases kind : isInterrupt t with
  | true =>
    rw [if_pos kind] at escalated
    unfold interruptOutcome at escalated
    dsimp only at escalated
    split at escalated
    · exact below (Outcome.resumed.inj escalated).2
    · cases escalated
  | false =>
    have exception : ¬isInterrupt t = true := by
      rw [kind]
      exact Bool.false_ne_true
    rw [if_neg exception] at escalated
    rcases exceptionOutcome_cases b t with ⟨ret, back⟩ | ⟨call, called⟩ | ended
    · rw [back] at escalated
      exact below (Outcome.resumed.inj escalated).2
    · rw [called] at escalated
      have narrow : code t < 64 := by
        simp only [List.mem_cons, List.not_mem_nil, or_false] at call
        omega
      have supervisor : level b.hart t = .supervisor := by
        unfold level
        rw [if_neg exception]
        exact if_pos ⟨below, narrow, delegates _ call⟩
      exact callOutcome_ne_machine supervisor below pc escalated
    · rw [ended] at escalated
      cases escalated

end Architecture

/-! ## Operations keep a program confined -/

namespace Bench

variable {b : Bench}

/-- A trap keeps the delegation and leads to a mode below Machine, or ends the run. -/
theorem take_confined {level : TrapLevel} {f : TrapFrame} {t : Trap}
    (taken : b.hart.trapLevel t = level) (delegates : b.DelegatesCalls) (below : t.origin ≠ .machine) :
    (b.take level f t).bench.Confined := by
  refine ⟨?delegates, ?below⟩
  case delegates =>
    have medeleg : (b.take level f t).bench.hart.csrs.read .medeleg = b.hart.csrs.read .medeleg :=
      read_csrs_take (level.csrs_control_disjoint List.mem_cons_self)
    intro code call
    rw [medeleg]
    exact delegates code call
  case below =>
    intro idle
    have phase := (take_settles b level f t).phase
    have outcome := take_outcome taken f
    cases answer : (b.take level f t).outcome with
    | halted v =>
      rw [answer, idle] at phase
      cases phase
    | resumed pc mode =>
      rw [(hart_of_take_resumed answer).2]
      rintro rfl
      exact Architecture.outcome_ne_machine delegates below pc (outcome.symm.trans answer)

/-- A trap from the current mode keeps a program confined. -/
theorem raise_confined {t : Trap} (current : t.origin = b.hart.mode) (confined : b.Confined) :
    (raise t b).state.Confined := by
  cases admission : b.admission t with
  | error e =>
    rw [raise_of_refusal admission]
    exact confined
  | ok a =>
    have admits := admission_eq_ok_iff.mp admission
    have below : t.origin ≠ .machine := by
      rw [current]
      exact confined.below admits.idle
    rw [raise_of_admission admission]
    exact take_confined (b := { b with log := a.log }) admits.level.symm confined.delegates below

theorem withHandler_confined (level : TrapLevel) (base : Word) (vectoring : Vectoring)
    (confined : b.Confined) : (b.withHandler level base vectoring).Confined := by
  have vector : CsrAddress.medeleg ≠ level.csrs.vector := by
    cases level <;> decide
  refine ⟨?delegates, ?below⟩
  case delegates =>
    intro code call
    show ((b.hart.csrs.write level.csrs.vector _).read .medeleg).getLsbD code = true
    rw [CsrFile.read_write_of_ne vector]
    exact confined.delegates code call
  case below =>
    intro idle
    unfold withHandler at idle
    rw [phase_setFrame] at idle
    exact confined.below idle

theorem call_confined (r : CallRequest) (confined : b.Confined) : (call r b).state.Confined := by
  have requested : (b.setRequest r).Confined := ⟨confined.delegates, confined.below⟩
  rw [call_apply]
  exact raise_confined rfl requested

/-- The run is over once it is closed. -/
theorem close_confined (delegates : b.DelegatesCalls) : b.close.Confined := by
  refine ⟨?delegates, ?below⟩
  case delegates =>
    intro code call
    show ((b.hart.csrs.write .mtvec b.defaultVector).read .medeleg).getLsbD code = true
    rw [CsrFile.read_write_of_ne (by decide)]
    exact delegates code call
  case below =>
    intro idle
    cases idle

theorem terminate_confined (confined : b.Confined) : (terminate b).state.Confined := by
  have called := call_confined closingRequest confined
  rcases state_terminate_cases b with same | ⟨-, closed⟩
  · rw [same]
    exact called
  · rw [closed]
    exact close_confined called.delegates

theorem append_confined (w : Word) (confined : b.Confined) : (append w b).state.Confined := by
  unfold append
  split
  · exact confined
  · exact ⟨confined.delegates, confined.below⟩

/-- Every permitted operation keeps a program confined. -/
theorem perform_confined {o : Operation} (permitted : b.Confines o) (confined : b.Confined) :
    (o.perform b).state.Confined := by
  cases o with
  | raise t => exact raise_confined permitted confined
  | call r => exact call_confined r confined
  | terminate => exact terminate_confined confined
  | setCsr a w =>
    refine ⟨?_, confined.below⟩
    intro code call
    show ((b.hart.csrs.write a w).read .medeleg).getLsbD code = true
    rw [CsrFile.read_write_of_ne (Ne.symm permitted)]
    exact confined.delegates code call
  | install mode base vectoring =>
    cases mode with
    | user => exact confined
    | supervisor => exact withHandler_confined .supervisor base vectoring confined
    | machine => exact withHandler_confined .machine base vectoring confined
  | append w => exact append_confined w confined
  | setPc pc => exact ⟨confined.delegates, confined.below⟩
  | setRegister r w => exact ⟨confined.delegates, confined.below⟩
  | rebase cursor => exact ⟨confined.delegates, confined.below⟩
  | _ => cases permitted

theorem Reaches.confined {c : Bench} (reaches : b.Reaches Confines c) (confined : b.Confined) :
    c.Confined := by
  induction reaches with
  | refl => exact confined
  | step _ permitted ih => exact perform_confined permitted ih

/-- A program that starts below Machine mode, with all calls delegated, is in User or Supervisor mode
whenever it runs. -/
theorem mode_below_machine {b c : Bench} (delegates : b.DelegatesCalls)
    (below : b.hart.mode = .user ∨ b.hart.mode = .supervisor) (reaches : b.Reaches Confines c)
    (idle : c.phase = .idle) : c.hart.mode = .user ∨ c.hart.mode = .supervisor := by
  have start : b.Confined := by
    refine ⟨delegates, fun _ machine => ?_⟩
    rw [machine] at below
    rcases below with below | below <;> cases below
  have mode := (reaches.confined start).below idle
  cases now : c.hart.mode with
  | user => exact .inl rfl
  | supervisor => exact .inr rfl
  | machine => exact absurd now mode

/-- A user program with handlers at both levels and all calls delegated. -/
def userProgram : Bench :=
  (((((start {}).withHandler .machine 0x80000100 .vectored).withHandler .supervisor 0x80000300
    .direct).delegate 0xB00 0).setMode .user).setPc 0x4000

/-- It writes Machine into the fields that returns read, asks for Machine mode, and then executes an
illegal instruction, which Machine handles: it is still in User mode. -/
theorem mode_below_machine_forgedStatus :
    userProgram.DelegatesCalls ∧ userProgram.hart.mode = .user ∧
      let c := Operation.session
        [.setCsr .mstatus 0x1900, .call { op := 2, page := 0, pageType := 0 },
          .setCsr .mstatus 0x1900, .raise (.exception 2 .user 0x4004)] userProgram
      c.phase = .idle ∧ (c.hart.mode = .user ∨ c.hart.mode = .supervisor) ∧
        c.hart.mode = .user ∧ c.hart.pc = 0x4008 := by
  have delegates : userProgram.DelegatesCalls := by
    unfold DelegatesCalls
    decide
  refine ⟨delegates, rfl, by decide, ?_, by decide, by decide⟩
  have forged : userProgram.Reaches Confines _ :=
    .step (o := .setCsr .mstatus 0x1900) .refl (by unfold Confines; decide)
  have called : userProgram.Reaches Confines _ :=
    .step (o := .call { op := 2, page := 0, pageType := 0 }) forged trivial
  have again : userProgram.Reaches Confines _ :=
    .step (o := .setCsr .mstatus 0x1900) called (by unfold Confines; decide)
  have trapped : userProgram.Reaches Confines _ :=
    .step (o := .raise (.exception 2 .user 0x4004)) again (by unfold Confines; decide)
  exact mode_below_machine delegates (.inl rfl) trapped (by decide)

end Bench

end HartTraps
