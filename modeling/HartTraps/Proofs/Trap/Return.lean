import HartTraps.Proofs.Trap.Entry

/-!
# Entering and returning at once

A level that takes a trap is at least as privileged as the mode that the trap came from, and its field of the
status register can hold that mode (`Hart.setPreviousMode?_origin_isSome`). So its registers say where the trap
came from, and a handler that returns at once goes back there; on the way only the registers of its own level
have changed (`Bench.enter_leave`).
-/

namespace HartTraps

namespace Hart

/-- No trap reaches a level below the mode that it came from. -/
theorem origin_le_trapLevel (h : Hart) (t : Trap) : t.origin.code ≤ (h.trapLevel t).mode.code := by
  cases level : h.trapLevel t with
  | machine => cases t.origin <;> decide
  | supervisor =>
    have below := origin_ne_machine level
    cases origin : t.origin with
    | user => decide
    | supervisor => decide
    | machine => exact absurd origin below

/-- The field of the level that takes a trap can hold the mode of origin, whatever the field held before. -/
theorem setPreviousMode?_origin_isSome (h : Hart) (t : Trap) (file : CsrFile) :
    (file.setPreviousMode? (h.trapLevel t) t.origin).isSome := by
  rw [Option.isSome_iff_ne_none]
  intro refused
  obtain ⟨supervisor, machine⟩ := (CsrFile.setPreviousMode?_eq_none_iff _ _ _).mp refused
  exact origin_ne_machine supervisor machine

/-- A return right after the entry of a trap goes back to where the trap was raised. -/
theorem leave_enter (h : Hart) (t : Trap) :
    let level := h.trapLevel t
    ((h.enter level t).leave level).pc = t.pc ∧ ((h.enter level t).leave level).mode = t.origin :=
  ⟨read_pc_csrsAtEntry h t, previousMode_csrsAtEntry h t⟩

end Hart

namespace Bench

/-- A trap enters at the level that takes it. This level is at least as privileged as the mode of origin, which
its field of the status register can hold; the field then holds that mode, and the level's registers the pc, the
cause and the faulting address of the trap. A return at once goes back to that pc in that mode. All other bits
of the status register and all other control registers, those of the other level among them, and all general
registers are as before. -/
theorem enter_leave (b : Bench) (t : Trap) :
    let level := b.hart.trapLevel t
    let entered := (enter t b).state.hart
    let back := entered.leave level
    (enter t b).result = .ok level ∧
      t.origin.code ≤ level.mode.code ∧
      (∀ file : CsrFile, (file.setPreviousMode? level t.origin).isSome) ∧
      entered.csrs.previousMode level = t.origin ∧
      entered.csrs.read level.csrs.pc = t.pc ∧
      entered.csrs.read level.csrs.cause = t.cause.raw ∧
      entered.csrs.read level.csrs.value = t.address.getD 0 ∧
      back.pc = t.pc ∧
      back.mode = t.origin ∧
      back.csrs.read .mstatus &&& ~~~CsrFile.previousField level =
        b.hart.csrs.read .mstatus &&& ~~~CsrFile.previousField level ∧
      (∀ a ∉ [level.csrs.pc, level.csrs.cause, level.csrs.value, .mstatus],
        back.csrs.read a = b.hart.csrs.read a) ∧
      (∀ other ≠ level,
        ∀ a ∈ [other.csrs.vector, other.csrs.pc, other.csrs.cause, other.csrs.value],
          back.csrs.read a = b.hart.csrs.read a) ∧
      back.registers = b.hart.registers := by
  intro level entered back
  have others : ∀ a ∉ [level.csrs.pc, level.csrs.cause, level.csrs.value, .mstatus],
      back.csrs.read a = b.hart.csrs.read a := by
    intro a other
    simp only [List.mem_cons, List.not_mem_nil, or_false, not_or] at other
    obtain ⟨pc, cause, value, status⟩ := other
    exact Hart.read_csrsAtEntry_of_ne b.hart level t pc cause value status
  obtain ⟨pc, mode⟩ := Hart.leave_enter b.hart t
  exact ⟨rfl, Hart.origin_le_trapLevel b.hart t, Hart.setPreviousMode?_origin_isSome b.hart t,
    Hart.previousMode_csrsAtEntry b.hart t, Hart.read_pc_csrsAtEntry b.hart t,
    Hart.read_cause_csrsAtEntry b.hart t, Hart.read_value_csrsAtEntry b.hart t, pc, mode,
    Hart.status_csrsAtEntry b.hart level t, others,
    fun other ne a own => others a (TrapLevel.csrs_disjoint ne own), rfl⟩

end Bench

end HartTraps
