import HartTraps.Proofs.Trap.Admission
import HartTraps.Proofs.Trap.Outcome

/-!
# What is refused

A trap, an installation and an appended word are refused for reasons that can be read off the bench
beforehand. Of several reasons that apply the first one counts: the run has ended, a handler is still
running, the level has no handler, the log has no room. A refusal changes nothing. Only a call, and with
it the end of a run, has put its request into the argument registers before it is refused.
-/

namespace HartTraps

/-- A run that ends with an error leaves the state as it found it. -/
def Run.Atomic {σ α : Type} (x : Run σ α) : Prop :=
  ∀ s e, (x s).result = .error e → (x s).state = s

namespace Bench

variable {b : Bench} {t : Trap}

/-! ## Traps -/

theorem raise_eq_halted_iff :
    (raise t b).result = .error .halted ↔ ∃ v, b.phase = .halted v := by
  rw [raise_eq_error_iff]
  constructor
  · rintro (⟨ended⟩ | _)
    exact ⟨_, ended⟩
  · rintro ⟨v, ended⟩
    exact .halted ended

theorem raise_eq_nestedTrap_iff {level : Mode} :
    (raise t b).result = .error (.nestedTrap level) ↔
      b.phase = .dispatched level ∨ b.phase = .resuming level := by
  rw [raise_eq_error_iff]
  constructor
  · rintro (_ | ⟨busy⟩)
    exact busy
  · exact .nested

theorem raise_eq_noHandler_iff {level : TrapLevel} :
    (raise t b).result = .error (.noHandler level) ↔
      b.phase = .idle ∧ level = Architecture.level b.hart t ∧ b.frame? level = none := by
  rw [raise_eq_error_iff, ← trapLevel_eq]
  constructor
  · intro refuses
    cases refuses with
    | noHandler idle absent => exact ⟨idle, rfl, absent⟩
  · rintro ⟨idle, rfl, absent⟩
    exact .noHandler idle absent

theorem raise_eq_logFull_iff {capacity : Word} :
    (raise t b).result = .error (.logFull capacity) ↔
      b.phase = .idle ∧ b.frame? (Architecture.level b.hart t) ≠ none ∧
        b.settings.recordCauses = true ∧ b.log.capacity.toNat ≤ b.log.words.length ∧
        capacity = b.log.capacity := by
  rw [raise_eq_error_iff, ← trapLevel_eq]
  constructor
  · intro refuses
    cases refuses with
    | logFull idle present lost =>
      obtain ⟨record, full⟩ := logged?_eq_none_iff.mp lost
      exact ⟨idle, present, record, full, rfl⟩
  · rintro ⟨idle, present, record, full, rfl⟩
    exact .logFull idle present (logged?_eq_none_iff.mpr ⟨record, full⟩)

/-- Every other trap is taken. -/
theorem raise_eq_ok_iff :
    (∃ outcome, (raise t b).result = .ok outcome) ↔
      b.phase = .idle ∧ b.frame? (Architecture.level b.hart t) ≠ none ∧
        ¬(b.settings.recordCauses = true ∧ b.log.capacity.toNat ≤ b.log.words.length) := by
  rw [← trapLevel_eq, ← logged?_eq_none_iff (c := t.cause)]
  constructor
  · rintro ⟨outcome, taken⟩
    cases admission : b.admission t with
    | error e =>
      rw [raise_of_refusal admission] at taken
      cases taken
    | ok a =>
      obtain ⟨idle, level, held, logged⟩ := admission_eq_ok_iff.mp admission
      rw [level] at held
      rw [held, logged]
      exact ⟨idle, Option.some_ne_none _, Option.some_ne_none _⟩
  · rintro ⟨idle, present, room⟩
    cases answer : (raise t b).result with
    | ok outcome => exact ⟨outcome, rfl⟩
    | error e =>
      -- None of the four reasons applies.
      cases refuses_of_raise answer with
      | halted ended => cases ended.symm.trans idle
      | nested busy =>
        rw [idle] at busy
        rcases busy with busy | busy <;> cases busy
      | noHandler _ absent => exact absurd absent present
      | logFull _ _ lost => exact absurd lost room

theorem raise_atomic (t : Trap) : (raise t).Atomic := by
  intro b e refused
  have admission := admission_eq_error_iff.mpr (refuses_of_raise refused)
  rw [raise_of_refusal admission]

/-! ## Installations and appended words -/

theorem install_eq_error_iff {mode : Mode} {base : Word} {vectoring : Vectoring} {e : BenchError} :
    (install mode base vectoring b).result = .error e ↔
      mode = .user ∧ e = .invalidHandlerLevel .user := by
  cases mode with
  | user =>
    constructor
    · intro refused
      cases refused
      exact ⟨rfl, rfl⟩
    · rintro ⟨-, rfl⟩
      rfl
  | _ =>
    constructor
    · intro refused
      cases refused
    · rintro ⟨user, -⟩
      cases user

theorem install_atomic (mode : Mode) (base : Word) (vectoring : Vectoring) :
    (install mode base vectoring).Atomic := by
  intro b e refused
  obtain ⟨rfl, rfl⟩ := install_eq_error_iff.mp refused
  rfl

theorem append_eq_error_iff {w : Word} {e : BenchError} :
    (append w b).result = .error e ↔
      b.log.capacity.toNat ≤ b.log.words.length ∧ e = .logFull b.log.capacity := by
  rw [← Log.append?_eq_none_iff (w := w)]
  unfold append
  cases room : b.log.append? w with
  | none =>
    constructor
    · intro refused
      cases refused
      exact ⟨rfl, rfl⟩
    · rintro ⟨-, rfl⟩
      rfl
  | some log =>
    constructor
    · intro refused
      cases refused
    · rintro ⟨full, -⟩
      cases full

theorem append_atomic (w : Word) : (append w).Atomic := by
  intro b e refused
  obtain ⟨full, -⟩ := append_eq_error_iff.mp refused
  rw [append_of_full full]

/-- A trap is refused because the run has ended, because a handler is running, because its level has
no handler, or because its cause cannot be logged, and taken otherwise; a handler cannot be installed
for User only; a word cannot be appended to a full log only. What is refused changes nothing. -/
theorem refused_exactly (b : Bench) :
    (∀ t : Trap,
      ((raise t b).result = .error .halted ↔ ∃ v, b.phase = .halted v) ∧
      (∀ level, (raise t b).result = .error (.nestedTrap level) ↔
        b.phase = .dispatched level ∨ b.phase = .resuming level) ∧
      (∀ level, (raise t b).result = .error (.noHandler level) ↔
        b.phase = .idle ∧ level = Architecture.level b.hart t ∧ b.frame? level = none) ∧
      (∀ capacity, (raise t b).result = .error (.logFull capacity) ↔
        b.phase = .idle ∧ b.frame? (Architecture.level b.hart t) ≠ none ∧
          b.settings.recordCauses = true ∧ b.log.capacity.toNat ≤ b.log.words.length ∧
          capacity = b.log.capacity) ∧
      ((∃ outcome, (raise t b).result = .ok outcome) ↔
        b.phase = .idle ∧ b.frame? (Architecture.level b.hart t) ≠ none ∧
          ¬(b.settings.recordCauses = true ∧ b.log.capacity.toNat ≤ b.log.words.length)) ∧
      (raise t).Atomic) ∧
    (∀ mode base vectoring,
      (∀ e, (install mode base vectoring b).result = .error e ↔
        mode = .user ∧ e = .invalidHandlerLevel .user) ∧
      (install mode base vectoring).Atomic) ∧
    ∀ w,
      (∀ e, (append w b).result = .error e ↔
        b.log.capacity.toNat ≤ b.log.words.length ∧ e = .logFull b.log.capacity) ∧
      (append w).Atomic := by
  refine ⟨?traps, ?installations, ?words⟩
  case traps =>
    intro t
    exact ⟨raise_eq_halted_iff, fun _ => raise_eq_nestedTrap_iff, fun _ => raise_eq_noHandler_iff,
      fun _ => raise_eq_logFull_iff, raise_eq_ok_iff, raise_atomic t⟩
  case installations =>
    intro mode base vectoring
    exact ⟨fun _ => install_eq_error_iff, install_atomic mode base vectoring⟩
  case words =>
    intro w
    exact ⟨fun _ => append_eq_error_iff, append_atomic w⟩

/-! ## Calls -/

/-- Whether a trap is admitted does not depend on the argument registers. -/
theorem admission_setRequest (b : Bench) (r : CallRequest) (t : Trap) :
    (b.setRequest r).admission t = b.admission t := rfl

theorem request_setRequest (b : Bench) (r : CallRequest) : (b.setRequest r).hart.request = r := by
  have a0 : (b.setRequest r).hart.read .a0 = r.op := by
    unfold setRequest Hart.write Hart.read
    rw [RegFile.read_write_of_ne (by decide), RegFile.read_write_of_ne (by decide),
      RegFile.read_write_self (by decide)]
  have a1 : (b.setRequest r).hart.read .a1 = r.page := by
    unfold setRequest Hart.write Hart.read
    rw [RegFile.read_write_of_ne (by decide), RegFile.read_write_self (by decide)]
  have a2 : (b.setRequest r).hart.read .a2 = r.pageType := by
    unfold setRequest Hart.write Hart.read
    rw [RegFile.read_write_self (by decide)]
  unfold Hart.request
  rw [a0, a1, a2]

/-- No other register holds a part of a request. -/
theorem read_setRequest_of_notMem (b : Bench) (r : CallRequest) {other : Register}
    (outside : other ∉ [Register.a0, .a1, .a2]) :
    (b.setRequest r).hart.read other = b.hart.read other := by
  simp only [List.mem_cons, List.not_mem_nil, or_false, not_or] at outside
  obtain ⟨a0, a1, a2⟩ := outside
  unfold setRequest Hart.write Hart.read
  rw [RegFile.read_write_of_ne a2, RegFile.read_write_of_ne a1, RegFile.read_write_of_ne a0]

/-- A request changes the bench unless it stands in the argument registers already. -/
theorem setRequest_eq_self_iff {r : CallRequest} : b.setRequest r = b ↔ b.hart.request = r := by
  constructor
  · intro same
    rw [← same]
    exact request_setRequest b r
  · rintro rfl
    have back (register : Register) : b.hart.write register (b.hart.read register) = b.hart := by
      unfold Hart.write Hart.read
      rw [RegFile.write_read]
    unfold setRequest Hart.request
    dsimp only
    rw [back .a0, back .a1, back .a2]

theorem terminate_eq_error_iff {e : BenchError} :
    (terminate b).result = .error e ↔ (call closingRequest b).result = .error e := by
  cases answer : (call closingRequest b).result with
  | error f => rw [terminate_of_error answer]
  | ok outcome =>
    cases outcome with
    | resumed pc mode =>
      rw [terminate_of_resumed answer]
      exact ⟨nofun, nofun⟩
    | halted v => rw [terminate_of_halted answer]

/-- A call that fails is refused as a trap. -/
theorem refuses_of_call {r : CallRequest} {e : BenchError} (refused : (call r b).result = .error e) :
    (b.setRequest r).Refuses (.environmentCall b.hart.mode b.hart.pc) e := by
  rw [call_apply] at refused
  exact refuses_of_raise refused

/-- The run is refused for the same reasons as the trap of a call. By then its request is in the argument
registers, and nothing else has changed. -/
structure RefusedWith (r : CallRequest) (x : Run Bench Outcome) (b : Bench) : Prop where
  reasons : ∀ e, (x b).result = .error e ↔
    (raise (.environmentCall b.hart.mode b.hart.pc) b).result = .error e
  state : ∀ e, (x b).result = .error e → (x b).state = b.setRequest r
  unchanged : ∀ e, (x b).result = .error e → ((x b).state = b ↔ b.hart.request = r)

theorem call_refusedWith (r : CallRequest) (b : Bench) : RefusedWith r (call r) b := by
  have state (e : BenchError) (refused : (call r b).result = .error e) :
      (call r b).state = b.setRequest r := by
    rw [call_apply] at refused ⊢
    exact raise_atomic _ _ e refused
  refine { reasons := ?reasons, state, unchanged := ?unchanged }
  case reasons =>
    intro e
    rw [call_apply, raise_eq_error_iff, ← admission_eq_error_iff, admission_setRequest,
      admission_eq_error_iff, ← raise_eq_error_iff]
  case unchanged =>
    intro e refused
    rw [state e refused]
    exact setRequest_eq_self_iff

theorem terminate_refusedWith (b : Bench) : RefusedWith closingRequest terminate b := by
  have called := call_refusedWith closingRequest b
  refine { reasons := ?reasons, state := ?state, unchanged := ?unchanged }
  case reasons =>
    intro e
    rw [terminate_eq_error_iff]
    exact called.reasons e
  case state =>
    intro e refused
    have refused := terminate_eq_error_iff.mp refused
    rw [terminate_of_error refused]
    exact called.state e refused
  case unchanged =>
    intro e refused
    have refused := terminate_eq_error_iff.mp refused
    rw [terminate_of_error refused]
    exact called.unchanged e refused

/-- A call is refused for the same reasons whatever it asks for, and so is the end of a run. What remains
of a refused call is its request. -/
theorem refused_calls (b : Bench) :
    (∀ r, RefusedWith r (call r) b) ∧ RefusedWith closingRequest terminate b :=
  ⟨fun r => call_refusedWith r b, terminate_refusedWith b⟩

/-- Neither a call of a run that has ended nor the end of a run without a handler leaves the argument
registers alone. -/
theorem calls_not_atomic :
    let fresh := (start {}).setRegister .a0 7
    let handled := (start {}).withHandler .machine 0x80000100 .vectored
    let ended := (call { op := 0, page := 0, pageType := 0 } handled).state.setRegister .a0 7
    let request := { op := 4, page := 0x1000, pageType := 2 }
    ((terminate fresh).result = .error (.noHandler .machine) ∧
      fresh.hart.request = { op := 7, page := 0, pageType := 0 } ∧
      (terminate fresh).state.hart.request = { op := 2, page := 0, pageType := 0 } ∧
      ¬terminate.Atomic) ∧
    (call request ended).result = .error .halted ∧
      ended.hart.request = { op := 7, page := 0, pageType := 0 } ∧
      (call request ended).state.hart.request = { op := 4, page := 0x1000, pageType := 2 } ∧
      ¬(call request).Atomic := by
  intro fresh handled ended request
  have unhandled : (terminate fresh).result = .error (.noHandler .machine) :=
    ((terminate_refusedWith fresh).reasons _).mpr (raise_eq_noHandler_iff.mpr ⟨rfl, by decide, rfl⟩)
  have halted : (call request ended).result = .error .halted :=
    ((call_refusedWith request ended).reasons _).mpr (raise_eq_halted_iff.mpr ⟨.pass, by decide⟩)
  have before : fresh.hart.request = { op := 7, page := 0, pageType := 0 } := by decide
  have after : (terminate fresh).state.hart.request = closingRequest := by decide
  have before' : ended.hart.request = { op := 7, page := 0, pageType := 0 } := by decide
  have after' : (call request ended).state.hart.request = request := by decide
  refine ⟨⟨unhandled, before, after, ?fresh⟩, halted, before', after', ?ended⟩
  case fresh =>
    intro atomic
    rw [atomic fresh _ unhandled, before] at after
    revert after
    decide
  case ended =>
    intro atomic
    rw [atomic ended _ halted, before'] at after'
    revert after'
    decide

end Bench

end HartTraps
