import HartTraps.Bench.Raise

/-!
# Which traps are admitted

An admission names the level that takes the trap, the frame of its handler and the log with the
trap's cause. Only an idle bench admits a trap, and each refusal has one reason.
-/

namespace HartTraps.Bench

variable {b : Bench} {t : Trap}

/-- What an admission says about the bench that grants it. -/
structure Admits (b : Bench) (t : Trap) (a : Admission) : Prop where
  idle : b.phase = .idle
  level : a.level = b.hart.trapLevel t
  frame : b.frame? a.level = some a.frame
  logged : b.logged? t.cause = some a.log

theorem admission_eq_ok_iff {a : Admission} : b.admission t = .ok a ↔ b.Admits t a := by
  constructor
  · intro admitted
    unfold admission at admitted
    split at admitted
    · cases admitted
    · cases admitted
    · cases admitted
    · next idle =>
      dsimp only at admitted
      split at admitted
      · cases admitted
      · next frame held =>
        split at admitted
        · cases admitted
        · next log logged =>
          cases admitted
          exact ⟨idle, rfl, held, logged⟩
  · rintro ⟨idle, level, frame, logged⟩
    obtain ⟨_, _, _⟩ := a
    subst level
    simp only [admission, idle, frame, logged]

/-- The reasons for which a bench refuses a trap. -/
inductive Refuses (b : Bench) (t : Trap) : BenchError → Prop where
  | halted {v : Verdict} (ended : b.phase = .halted v) : Refuses b t .halted
  | nested {level : Mode} (busy : b.phase = .dispatched level ∨ b.phase = .resuming level) :
      Refuses b t (.nestedTrap level)
  | noHandler (idle : b.phase = .idle) (absent : b.frame? (b.hart.trapLevel t) = none) :
      Refuses b t (.noHandler (b.hart.trapLevel t))
  | logFull (idle : b.phase = .idle) (present : b.frame? (b.hart.trapLevel t) ≠ none)
      (full : b.logged? t.cause = none) : Refuses b t (.logFull b.log.capacity)

theorem refuses_of_admission {e : BenchError} (refused : b.admission t = .error e) :
    b.Refuses t e := by
  unfold admission at refused
  split at refused
  · next ended =>
    cases refused
    exact .halted ended
  · next busy =>
    cases refused
    exact .nested (.inl busy)
  · next busy =>
    cases refused
    exact .nested (.inr busy)
  · next idle =>
    dsimp only at refused
    split at refused
    · next absent =>
      cases refused
      exact .noHandler idle absent
    · next present =>
      split at refused
      · next full =>
        cases refused
        exact .logFull idle (by rw [present]; exact Option.some_ne_none _) full
      · cases refused

theorem admission_eq_error_iff {e : BenchError} : b.admission t = .error e ↔ b.Refuses t e := by
  refine ⟨refuses_of_admission, fun refuses => ?_⟩
  cases refuses with
  | halted ended => simp only [admission, ended]
  | nested busy =>
    rcases busy with busy | busy
    · simp only [admission, busy]
    · simp only [admission, busy]
  | noHandler idle absent => simp only [admission, idle, absent]
  | logFull idle present full =>
    obtain ⟨frame, held⟩ := Option.ne_none_iff_exists'.mp present
    simp only [admission, idle, held, full]

theorem raise_of_admission {a : Admission} (admitted : b.admission t = .ok a) :
    raise t b =
      ⟨.ok ({ b with log := a.log }.take a.level a.frame t).outcome,
        ({ b with log := a.log }.take a.level a.frame t).bench,
        ({ b with log := a.log }.take a.level a.frame t).notes⟩ := by
  unfold raise
  rw [admitted]

theorem raise_of_refusal {e : BenchError} (refused : b.admission t = .error e) :
    raise t b = ⟨.error e, b, []⟩ := by
  unfold raise
  rw [refused]

/-- A trap that is accepted was admitted, and is served with the log that the admission hands over. -/
theorem admits_of_raise {o : Outcome} (accepted : (raise t b).result = .ok o) :
    ∃ a, b.Admits t a ∧ ({ b with log := a.log }.take a.level a.frame t).outcome = o ∧
      (raise t b).state = ({ b with log := a.log }.take a.level a.frame t).bench := by
  cases admission : b.admission t with
  | error e =>
    rw [raise_of_refusal admission] at accepted
    cases accepted
  | ok a =>
    rw [raise_of_admission admission] at accepted ⊢
    exact ⟨a, admission_eq_ok_iff.mp admission, Except.ok.inj accepted, rfl⟩

theorem raise_eq_error_iff {e : BenchError} : (raise t b).result = .error e ↔ b.Refuses t e := by
  rw [← admission_eq_error_iff]
  cases admission : b.admission t with
  | error f =>
    simp only [raise_of_refusal admission, Except.error.injEq]
  | ok a =>
    rw [raise_of_admission admission]
    constructor
    · intro refused
      cases refused
    · intro refused
      cases refused

/-- A trap that is not accepted was refused. -/
theorem refuses_of_raise {e : BenchError} (refused : (raise t b).result = .error e) :
    b.Refuses t e :=
  raise_eq_error_iff.mp refused

/-- The log after an admitted trap. -/
theorem logged?_eq_some {c : Cause} {log : Log} (logged : b.logged? c = some log) :
    log = b.log ∧ b.settings.recordCauses = false ∨
      b.log.append? c.raw = some log ∧ b.settings.recordCauses = true := by
  unfold logged? at logged
  split at logged
  · next record => exact .inr ⟨logged, record⟩
  · next off => exact .inl ⟨(Option.some.inj logged).symm, Bool.not_eq_true _ ▸ off⟩

/-- The log that is handed to the handler has the trap's cause as its last word if causes are recorded. -/
theorem log_eq_of_logged? {c : Cause} {log : Log} (logged : b.logged? c = some log) :
    log = { b.log with
      words := b.log.words ++ if b.settings.recordCauses then [c.raw] else [] } := by
  rcases logged?_eq_some logged with ⟨same, off⟩ | ⟨appended, on⟩
  · rw [off, if_neg Bool.false_ne_true, List.append_nil]
    exact same
  · rw [on, if_pos rfl]
    exact (Log.append?_eq_some appended).2

/-- A cause is lost only if it should be logged and the log has no room. -/
theorem logged?_eq_none_iff {c : Cause} :
    b.logged? c = none ↔
      b.settings.recordCauses = true ∧ b.log.capacity.toNat ≤ b.log.words.length := by
  unfold logged?
  split
  · next record =>
    rw [Log.append?_eq_none_iff]
    exact ⟨fun full => ⟨record, full⟩, fun refused => refused.2⟩
  · next off =>
    constructor
    · intro lost
      cases lost
    · rintro ⟨record, -⟩
      exact absurd record off

end HartTraps.Bench
