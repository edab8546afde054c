import HartTraps.Proofs.Trap.Ending
import HartTraps.Proofs.Trap.Refusal
import HartTraps.Proofs.Trap.Settle

/-!
# How a run is closed

A run ends with a call for Machine mode. The call never halts by itself, so a run that is allowed to end
ends as passed. But only the Machine handler can return to Machine: if Supervisor serves the call, the
run ends in the mode from which it was closed.
-/

namespace HartTraps

namespace Architecture

/-- The raw cause of an environment call is its code. -/
theorem cause_environmentCall (mode : Mode) (pc : Word) :
    isInterrupt (.environmentCall mode pc) = false ∧
      code (.environmentCall mode pc) = (Trap.callCode mode).toNat := by
  show (Cause.exception (Trap.callCode mode)).raw.getLsbD 63 = false ∧
    ((Cause.exception (Trap.callCode mode)).raw.setWidth 63).toNat = (Trap.callCode mode).toNat
  cases mode <;> decide

/-- Every environment call is served as one, whatever its mode. -/
theorem outcome_environmentCall (b : Bench) (mode : Mode) (pc : Word) :
    outcome b (.environmentCall mode pc) = callOutcome b (.environmentCall mode pc) := by
  obtain ⟨exception, code⟩ := cause_environmentCall mode pc
  refine outcome_of_call exception ?_
  rw [code]
  cases mode <;> decide

/-- The mode to which a call for Machine mode leads. -/
def closingMode (h : Hart) : Mode :=
  match level h (.environmentCall h.mode h.pc) with
  | .machine => .machine
  | .supervisor => h.mode

/-- Supervisor takes no trap from Machine mode. -/
theorem closingMode_eq_machine_iff (h : Hart) :
    closingMode h = .machine ↔ level h (.environmentCall h.mode h.pc) = .machine := by
  unfold closingMode
  cases served : level h (.environmentCall h.mode h.pc) with
  | machine => exact ⟨fun _ => rfl, fun _ => rfl⟩
  | supervisor =>
    have below : h.mode ≠ .machine := by
      intro machine
      unfold level at served
      rw [if_neg (fun delegated => delegated.1 machine)] at served
      cases served
    exact ⟨fun machine => absurd machine below, nofun⟩

end Architecture

namespace Bench

variable {b : Bench} {o : Outcome}

/-- A call for Machine mode that is accepted goes on in the mode to which its level can return. -/
theorem resumed_of_closing (accepted : (call closingRequest b).result = .ok o) :
    ∃ pc, o = .resumed pc (Architecture.closingMode b.hart) ∧
      (call closingRequest b).state.hart.mode = Architecture.closingMode b.hart := by
  rw [call_apply] at accepted ⊢
  obtain ⟨a, admits, outcome, state⟩ := admits_of_raise accepted
  have request := request_setRequest b closingRequest
  have op : (b.setRequest closingRequest).hart.read .a0 = 2 := congrArg CallRequest.op request
  -- The call has neither a verdict nor a page, so it comes back past its instruction.
  have served : ({ b.setRequest closingRequest with log := a.log }.take a.level a.frame
      (.environmentCall b.hart.mode b.hart.pc)).outcome =
        .resumed (Architecture.destination { b.setRequest closingRequest with log := a.log }
          (.environmentCall b.hart.mode b.hart.pc)) (Architecture.closingMode b.hart) := by
    rw [take_outcome (b := { b.setRequest closingRequest with log := a.log }) admits.level.symm,
      Architecture.outcome_environmentCall]
    unfold Architecture.callOutcome
    dsimp only
    rw [op]
    rfl
  obtain ⟨-, mode⟩ := hart_of_take_resumed served
  rw [state]
  exact ⟨_, outcome.symm.trans served, mode⟩

/-- A run that ends is closed after its call has come back. -/
theorem state_of_terminate (ended : (terminate b).result = .ok o) :
    o = .halted .pass ∧ (call closingRequest b).state.hart.mode = Architecture.closingMode b.hart ∧
      (terminate b).state = (call closingRequest b).state.close := by
  cases answer : (call closingRequest b).result with
  | error e =>
    rw [terminate_of_error answer] at ended
    cases ended
  | ok outcome =>
    obtain ⟨pc, rfl, mode⟩ := resumed_of_closing answer
    rw [terminate_of_resumed answer] at ended ⊢
    exact ⟨(Except.ok.inj ended).symm, mode, rfl⟩

/-- A run can be ended whenever a call can be made. -/
theorem terminate_eq_ok_iff :
    (terminate b).result = .ok o ↔
      o = .halted .pass ∧
        ∃ served, (raise (.environmentCall b.hart.mode b.hart.pc) b).result = .ok served := by
  have reasons := (terminate_refusedWith b).reasons
  constructor
  · intro ended
    refine ⟨(state_of_terminate ended).1, ?_⟩
    cases answer : (raise (.environmentCall b.hart.mode b.hart.pc) b).result with
    | ok served => exact ⟨served, rfl⟩
    | error e =>
      rw [(reasons e).mpr answer] at ended
      cases ended
  · rintro ⟨rfl, served, accepted⟩
    cases answer : (terminate b).result with
    | ok outcome => rw [(state_of_terminate answer).1]
    | error e =>
      rw [(reasons e).mp answer] at accepted
      cases accepted

/-- A run that ends has passed. It ends in Machine mode exactly if Machine served its last call, and
otherwise in the mode from which it was closed. -/
theorem mode_of_terminate (ended : (terminate b).result = .ok o) :
    o = .halted .pass ∧ (terminate b).state.phase = .halted .pass ∧
      (terminate b).state.hart.mode = Architecture.closingMode b.hart ∧
      ((terminate b).state.hart.mode = .machine ↔
        Architecture.level b.hart (.environmentCall b.hart.mode b.hart.pc) = .machine) := by
  obtain ⟨passed, mode, closed⟩ := state_of_terminate ended
  have final : (terminate b).state.hart.mode = Architecture.closingMode b.hart := by
    rw [closed]
    exact mode
  refine ⟨passed, ?_, final, ?_⟩
  · rw [closed]
    rfl
  · rw [final]
    exact Architecture.closingMode_eq_machine_iff b.hart

/-- A user program whose calls go to Machine. -/
def undelegated : Bench :=
  ((start {}).withHandler .machine 0x80000100 .vectored).setMode .user

theorem mode_of_terminate_undelegated :
    (terminate undelegated).result = .ok (.halted .pass) ∧
      (terminate undelegated).state.phase = .halted .pass ∧
      (terminate undelegated).state.hart.mode = .machine := by
  have ended : (terminate undelegated).result = .ok (.halted .pass) :=
    terminate_eq_ok_iff.mpr ⟨rfl, raise_eq_ok_iff.mpr ⟨rfl, by decide, by decide⟩⟩
  obtain ⟨-, phase, -, machine⟩ := mode_of_terminate ended
  exact ⟨ended, phase, machine.mpr (by decide)⟩

/-- A user program whose calls go to Supervisor. -/
def delegatedToSupervisor : Bench :=
  (((start {}).withHandler .supervisor 0x80000300 .direct).delegate 0x100 0).setMode .user

/-- A run can pass and end outside of Machine mode. -/
theorem terminate_in_user :
    (terminate delegatedToSupervisor).result = .ok (.halted .pass) ∧
      (terminate delegatedToSupervisor).state.phase = .halted .pass ∧
      (terminate delegatedToSupervisor).state.hart.mode = .user ∧
      ¬∀ b o, (terminate b).result = .ok o →
        o = .halted .pass ∧ (terminate b).state.phase = .halted .pass ∧
          (terminate b).state.hart.mode = .machine := by
  have ended : (terminate delegatedToSupervisor).result = .ok (.halted .pass) :=
    terminate_eq_ok_iff.mpr ⟨rfl, raise_eq_ok_iff.mpr ⟨rfl, by decide, by decide⟩⟩
  have user : (terminate delegatedToSupervisor).state.hart.mode = .user := by decide
  refine ⟨ended, by decide, user, fun returns => ?_⟩
  have machine := (returns delegatedToSupervisor (.halted .pass) ended).2.2
  rw [user] at machine
  cases machine

end Bench

end HartTraps
