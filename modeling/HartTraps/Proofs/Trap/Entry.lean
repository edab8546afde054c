import HartTraps.Bench.Raise

/-!
# What a trap entry leaves in the control registers

The level that takes a trap can hold the mode that the trap came from: traps from Machine mode never
reach Supervisor. So a return that nothing intervenes in goes back to where the trap was raised.
-/

namespace HartTraps.Hart

/-- A trap that reaches Supervisor comes from below Machine. -/
theorem origin_ne_machine {h : Hart} {t : Trap} (supervisor : h.trapLevel t = .supervisor) :
    t.origin ≠ .machine := by
  intro machine
  unfold trapLevel at supervisor
  rw [if_pos (Or.inl machine)] at supervisor
  cases supervisor

/-- The level's field takes the mode of origin. -/
theorem csrsAtEntry_eq (h : Hart) (t : Trap) :
    (h.describe (h.trapLevel t) t).setPreviousMode? (h.trapLevel t) t.origin =
      some (h.csrsAtEntry (h.trapLevel t) t) := by
  cases request : (h.describe (h.trapLevel t) t).setPreviousMode? (h.trapLevel t) t.origin with
  | some entered => rw [csrsAtEntry, request, Option.getD_some]
  | none =>
    obtain ⟨supervisor, machine⟩ := (CsrFile.setPreviousMode?_eq_none_iff _ _ _).mp request
    exact absurd machine (origin_ne_machine supervisor)

/-- After entry the level's previous mode is the mode of origin. -/
theorem previousMode_csrsAtEntry (h : Hart) (t : Trap) :
    (h.csrsAtEntry (h.trapLevel t) t).previousMode (h.trapLevel t) = t.origin :=
  CsrFile.previousMode_of_set (csrsAtEntry_eq h t)

/-- After entry the level's exception pc is the pc of the trap. -/
theorem read_pc_csrsAtEntry (h : Hart) (t : Trap) :
    (h.csrsAtEntry (h.trapLevel t) t).read (h.trapLevel t).csrs.pc = t.pc := by
  rw [CsrFile.read_of_setPreviousMode? (csrsAtEntry_eq h t) (TrapLevel.csrs_pc_ne_mstatus _),
    describe, CsrFile.read_write_of_ne (TrapLevel.csrs_value_ne_pc _).symm,
    CsrFile.read_write_of_ne (TrapLevel.csrs_cause_ne_pc _).symm, CsrFile.read_write_self]

/-- After entry the level's cause is the cause of the trap. -/
theorem read_cause_csrsAtEntry (h : Hart) (t : Trap) :
    (h.csrsAtEntry (h.trapLevel t) t).read (h.trapLevel t).csrs.cause = t.cause.raw := by
  rw [CsrFile.read_of_setPreviousMode? (csrsAtEntry_eq h t) (TrapLevel.csrs_cause_ne_mstatus _),
    describe, CsrFile.read_write_of_ne (TrapLevel.csrs_value_ne_cause _).symm,
    CsrFile.read_write_self]

/-- After entry the level's trap value is the faulting address, or 0 if the trap has none. -/
theorem read_value_csrsAtEntry (h : Hart) (t : Trap) :
    (h.csrsAtEntry (h.trapLevel t) t).read (h.trapLevel t).csrs.value = t.address.getD 0 := by
  rw [CsrFile.read_of_setPreviousMode? (csrsAtEntry_eq h t) (TrapLevel.csrs_value_ne_mstatus _),
    describe, CsrFile.read_write_self]

/-- An entry changes no control register but those that describe the trap and the status register. -/
theorem read_csrsAtEntry_of_ne (h : Hart) (level : TrapLevel) (t : Trap) {a : CsrAddress}
    (pc : a ≠ level.csrs.pc) (cause : a ≠ level.csrs.cause) (value : a ≠ level.csrs.value)
    (status : a ≠ .mstatus) : (h.csrsAtEntry level t).read a = h.csrs.read a := by
  have described : (h.describe level t).read a = h.csrs.read a := by
    rw [describe, CsrFile.read_write_of_ne value, CsrFile.read_write_of_ne cause,
      CsrFile.read_write_of_ne pc]
  unfold csrsAtEntry
  cases request : (h.describe level t).setPreviousMode? level t.origin with
  | none => exact described
  | some entered => exact (CsrFile.read_of_setPreviousMode? request status).trans described

/-- An entry changes no bit of the status register outside of the level's field. -/
theorem status_csrsAtEntry (h : Hart) (level : TrapLevel) (t : Trap) :
    (h.csrsAtEntry level t).read .mstatus &&& ~~~CsrFile.previousField level =
      h.csrs.read .mstatus &&& ~~~CsrFile.previousField level := by
  have described : (h.describe level t).read .mstatus = h.csrs.read .mstatus := by
    rw [describe, CsrFile.read_write_of_ne level.csrs_value_ne_mstatus.symm,
      CsrFile.read_write_of_ne level.csrs_cause_ne_mstatus.symm,
      CsrFile.read_write_of_ne level.csrs_pc_ne_mstatus.symm]
  rw [← described]
  unfold csrsAtEntry
  cases request : (h.describe level t).setPreviousMode? level t.origin with
  | none => rfl
  | some entered => exact CsrFile.status_of_setPreviousMode? request

/-- An entry leaves the trap vectors alone. -/
theorem read_vector_csrsAtEntry (h : Hart) (t : Trap) (level : TrapLevel) :
    (h.csrsAtEntry (h.trapLevel t) t).read level.csrs.vector = h.csrs.read level.csrs.vector := by
  obtain ⟨pc, cause, value, status⟩ := level.csrs_vector_ne (h.trapLevel t)
  exact read_csrsAtEntry_of_ne h _ t pc cause value status

end HartTraps.Hart
