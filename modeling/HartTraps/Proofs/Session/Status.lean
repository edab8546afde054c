import HartTraps.Proofs.Session.Operations
import HartTraps.Proofs.Trap.Footprint
import HartTraps.Proofs.Trap.Refusal

/-!
# What traps leave of the status register

A trap writes its level's field of the status register and no other bit. So whatever traps are taken, at
either level and in any number, the bits outside of the two fields stay as they are, until a host or a
routine of a test table assigns the register itself.
-/

namespace HartTraps

namespace Bench

/-- The status registers agree but for the fields that hold a previous mode. -/
def SameStatus (b c : Bench) : Prop :=
  c.hart.csrs.read .mstatus &&& ~~~(Status.mpp ||| Status.spp) =
    b.hart.csrs.read .mstatus &&& ~~~(Status.mpp ||| Status.spp)

namespace SameStatus

variable {b c d : Bench}

theorem refl (b : Bench) : b.SameStatus b := rfl

theorem trans (first : b.SameStatus c) (rest : c.SameStatus d) : b.SameStatus d :=
  Eq.trans rest first

/-- Nothing is written to the status register. -/
theorem of_read (same : c.hart.csrs.read .mstatus = b.hart.csrs.read .mstatus) : b.SameStatus c := by
  unfold SameStatus
  rw [same]

/-- Another control register is written. -/
theorem of_write {a : CsrAddress} {w : Word} (other : a ≠ .mstatus)
    (csrs : c.hart.csrs = b.hart.csrs.write a w) : b.SameStatus c := by
  apply of_read
  rw [csrs, CsrFile.read_write_of_ne other.symm]

/-- Only the field of one level is written. -/
theorem of_field (level : TrapLevel)
    (field : c.hart.csrs.read .mstatus &&& ~~~CsrFile.previousField level =
      b.hart.csrs.read .mstatus &&& ~~~CsrFile.previousField level) : b.SameStatus c := by
  have wider : ~~~(Status.mpp ||| Status.spp) =
      ~~~CsrFile.previousField level &&& ~~~(Status.mpp ||| Status.spp) := by
    cases level <;> decide
  unfold SameStatus
  rw [wider, ← BitVec.and_assoc, ← BitVec.and_assoc, field]

end SameStatus

/-! ## Traps and calls -/

section Trapped

variable (b : Bench)

theorem sameStatus_raise (t : Trap) : b.SameStatus (raise t b).state := by
  cases answer : (raise t b).result with
  | error e =>
    rw [raise_atomic t b e answer]
    exact .refl b
  | ok outcome => exact .of_field _ (footprint_of_raise answer).status

theorem sameStatus_call (r : CallRequest) : b.SameStatus (call r b).state := by
  rw [call_apply]
  exact (SameStatus.of_read rfl).trans (sameStatus_raise (b.setRequest r) _)

theorem sameStatus_close : b.SameStatus b.close :=
  .of_write (a := .mtvec) (by decide) rfl

theorem sameStatus_terminate : b.SameStatus (terminate b).state := by
  have called := sameStatus_call b closingRequest
  rcases state_terminate_cases b with same | ⟨-, closed⟩
  · rw [same]
    exact called
  · rw [closed]
    exact called.trans (sameStatus_close _)

theorem sameStatus_append (w : Word) : b.SameStatus (append w b).state := by
  unfold append
  split
  · exact .refl b
  · exact .of_read rfl

theorem sameStatus_install (mode : Mode) (base : Word) (vectoring : Vectoring) :
    b.SameStatus (install mode base vectoring b).state := by
  unfold install
  cases mode.handlerLevel? with
  | none => exact .refl b
  | some level => exact .of_write (level.csrs_vector_ne level).2.2.2 rfl

end Trapped

end Bench

/-- A routine that does not assign the status register. -/
def Routine.SparesStatus (routine : Routine) : Prop :=
  routine ∉ [setPageAccess, exchangeMprv]

/-- An operation that neither assigns the status register nor replaces the whole bench. -/
def Operation.SparesStatus : Operation → Prop
  | setCsr a _ => a ≠ .mstatus
  | setHart _ | reload | restore => False
  | runCase _ routine => routine.SparesStatus
  | _ => True

namespace Bench

variable (b : Bench)

/-- A bank of 256 registers that begins above the status register does not reach around to it. -/
theorem bank_ne_mstatus {first : CsrAddress} (above : 0x300 < first.toNat) (below : first.toNat ≤ 0xF00)
    (n : BitVec 8) : first + n.setWidth 12 ≠ .mstatus := by
  intro same
  have sum := congrArg BitVec.toNat same
  have status : CsrAddress.mstatus.toNat = 0x300 := rfl
  rw [CsrAddress.toNat_bank below, status] at sum
  omega

theorem sameStatus_setAndLog {a : CsrAddress} (other : a ≠ .mstatus) (w : Word) :
    b.SameStatus (setAndLog a w b).state := by
  have written : b.SameStatus { b with hart := b.hart.writeCsr a w } := .of_write other rfl
  exact written.trans (sameStatus_append _ _)

theorem sameStatus_routine {case : TestCase} {routine : Routine} {run : Run Bench Unit}
    (own : routine? case routine = some run) (spares : routine.SparesStatus) :
    b.SameStatus (run b).state := by
  cases routine with
  | store width => cases own
  | load width => cases own
  | fetch => cases own
  | finish =>
    cases own
    rw [state_discard]
    exact sameStatus_terminate b
  | setPaging scheme =>
    cases own
    exact .of_write (a := .satp) (by decide) rfl
  | setPageAccess => exact absurd List.mem_cons_self spares
  | exchangeMprv => exact absurd (List.mem_cons_of_mem _ List.mem_cons_self) spares
  | goto target =>
    cases own
    rw [state_discard]
    exact sameStatus_call b _
  | setPmpConfig n =>
    cases own
    exact sameStatus_setAndLog b (bank_ne_mstatus (by decide) (by decide) n) _
  | setPmpAddress n =>
    cases own
    exact sameStatus_setAndLog b (bank_ne_mstatus (by decide) (by decide) n) _

end Bench

namespace Operation

/-- A plain operation that spares the status register. -/
theorem sameStatus_own {o : Operation} (plain : o.IsPlain) (spares : o.SparesStatus) (b : Bench) :
    b.SameStatus (o.perform b).state := by
  cases o with
  | install mode base vectoring => exact b.sameStatus_install mode base vectoring
  | delegate exceptions interrupts =>
    have first : b.SameStatus { b with hart := b.hart.writeCsr .medeleg exceptions } :=
      .of_write (a := .medeleg) (by decide) rfl
    exact first.trans (.of_write (a := .mideleg) (by decide) rfl)
  | setMode mode => exact .of_read rfl
  | setPc pc => exact .of_read rfl
  | setRegister r w => exact .of_read rfl
  | setCsr a w => exact .of_write spares rfl
  | setHart hart => cases spares
  | raise t => exact b.sameStatus_raise t
  | call r => exact b.sameStatus_call r
  | terminate => exact b.sameStatus_terminate
  | append w => exact b.sameStatus_append w
  | rebase cursor => exact .of_read rfl
  | runCase case routine =>
    cases own : Bench.routine? case routine with
    | some run =>
      rw [perform, own]
      exact b.sameStatus_routine own spares
    | none =>
      rw [perform, own]
      exact .refl b
  | play script => exact absurd rfl (plain script)
  | reload => cases spares
  | restore => cases spares

/-- Scripts do not assign the status register, so the course of an operation spares it if the operation
does. -/
theorem sparesStatus_of_mem_course {o part : Operation} (spares : o.SparesStatus) {b : Bench}
    (member : part ∈ o.course b) : part.SparesStatus := by
  cases o with
  | play script =>
    obtain ⟨c, before, rfl⟩ := command_of_mem_script member
    cases c <;> exact trivial
  | _ =>
    rcases List.mem_singleton.mp member with rfl
    exact spares

/-- Plain operations one after the other. -/
theorem sameStatus_plain {os : List Operation} (plain : ∀ o ∈ os, o.IsPlain)
    (spares : ∀ o ∈ os, o.SparesStatus) (b : Bench) : b.SameStatus (session os b) := by
  induction os generalizing b with
  | nil => exact .refl b
  | cons o os ih =>
    have first := sameStatus_own (plain o List.mem_cons_self) (spares o List.mem_cons_self) b
    exact first.trans (ih (fun o among => plain o (List.mem_cons_of_mem _ among))
      (fun o among => spares o (List.mem_cons_of_mem _ among)) _)

/-- Any session that does not assign the status register. -/
theorem sameStatus_session {os : List Operation} (spares : ∀ o ∈ os, o.SparesStatus) (b : Bench) :
    b.SameStatus (session os b) := by
  -- Scripts are taken apart first; no operation that is left contains another.
  rw [← session_fullCourse]
  apply sameStatus_plain
  · intro part member
    obtain ⟨o, -, before, member⟩ := course_of_mem_fullCourse member
    exact isPlain_of_mem_course member
  · intro part member
    obtain ⟨o, among, before, member⟩ := course_of_mem_fullCourse member
    exact sparesStatus_of_mem_course (spares o among) member

end Operation

namespace Bench

/-- An accepted trap writes nothing outside of its footprint. So however many traps are taken, and
whatever else is asked of the bench, the bits of the status register outside of the two fields stay as
they are as long as the register is not assigned. -/
theorem footprint_of_traps (b : Bench) :
    (∀ t o, (raise t b).result = .ok o →
      Footprint (Architecture.level b.hart t) t b (raise t b).state) ∧
    ∀ os : List Operation, (∀ o ∈ os, o.SparesStatus) → b.SameStatus (Operation.session os b) :=
  ⟨fun _ _ => footprint_of_raise, fun _ spares => Operation.sameStatus_session spares b⟩

/-- A call from User that moves to another page is served by Supervisor; another one and the end of the
run follow. -/
theorem footprint_of_traps_delegatedCall :
    let call := Trap.environmentCall .user 0x1FFC
    (∃ o, (raise call delegatedCall).result = .ok o) ∧
      Architecture.AsksToMove delegatedCall.hart call ∧
      Footprint .supervisor call delegatedCall (raise call delegatedCall).state ∧
      (∀ o ∈ [Operation.raise call, .raise call, .terminate], o.SparesStatus) ∧
      delegatedCall.SameStatus
        (Operation.session [.raise call, .raise call, .terminate] delegatedCall) := by
  intro call
  obtain ⟨traps, sessions⟩ := footprint_of_traps delegatedCall
  obtain ⟨o, accepted⟩ : ∃ o, (raise call delegatedCall).result = .ok o :=
    raise_eq_ok_iff.mpr ⟨rfl, by decide, by decide⟩
  have level : Architecture.level delegatedCall.hart call = .supervisor := by decide
  have spares : ∀ o ∈ [Operation.raise call, .raise call, .terminate], o.SparesStatus := by
    simp [Operation.SparesStatus]
  exact ⟨⟨o, accepted⟩, by decide, level ▸ traps call o accepted, spares, sessions _ spares⟩

end Bench

end HartTraps
