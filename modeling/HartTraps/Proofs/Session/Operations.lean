import HartTraps.Proofs.Session.Course
import HartTraps.Proofs.Session.Step
import HartTraps.Proofs.Snapshot.Reload

/-!
# Operations are made of steps

Each operation takes a bench whose log fits through steps with exactly the events of the operation. So
does a session: along the way the log keeps fitting, and each reload gives the bench back.
-/

namespace HartTraps

namespace Bench

variable (b : Bench)

theorem steps_hart (hart : Hart) : Steps b [] { b with hart } :=
  .single (.hart b hart)

theorem steps_raise (t : Trap) : Steps b (trapEvents t b) (raise t b).state := by
  unfold trapEvents
  cases admission : b.admission t with
  | error e =>
    rw [raise_of_refusal admission]
    exact .refl b
  | ok a =>
    have admits := admission_eq_ok_iff.mp admission
    rw [raise_of_admission admission, ← admits.level]
    exact .single (.trap admits)

theorem steps_call (r : CallRequest) : Steps b (callEvents r b) (call r b).state := by
  rw [call_apply]
  exact (steps_hart b (b.setRequest r).hart).trans (steps_raise (b.setRequest r) _)

/-- A run is closed after the call for Machine mode has come back. -/
theorem steps_terminate : Steps b (callEvents closingRequest b) (terminate b).state := by
  have called := steps_call b closingRequest
  rcases state_terminate_cases b with same | ⟨idle, closed⟩
  · rw [same]
    exact called
  · rw [closed]
    exact called.silent (.close idle)

theorem steps_append (w : Word) : Steps b (appendEvents w b) (append w b).state := by
  unfold appendEvents append
  cases room : b.log.append? w with
  | none => exact .refl b
  | some log => exact .single (.append room)

theorem steps_install (mode : Mode) (base : Word) (vectoring : Vectoring) :
    Steps b (mode.handlerLevel?.toList.map .installed) (install mode base vectoring b).state := by
  unfold install
  cases mode.handlerLevel? with
  | none => exact .refl b
  | some level => exact .single (.install b level base vectoring)

/-- Whether a word is appended does not depend on the hart. -/
theorem appendEvents_hart (w : Word) (hart : Hart) :
    appendEvents w { b with hart } = appendEvents w b := by
  unfold appendEvents append
  cases b.log.append? w <;> rfl

/-! ## Routines of a test table -/

theorem state_discard {α : Type} (x : Run Bench α) :
    ((do let _ ← x) b).state = (x b).state := by
  rw [Run.bind_apply]
  cases (x b).result <;> rfl

theorem steps_exchangeMprv (case : TestCase) :
    Steps b (appendEvents ((b.hart.csrs.read .mstatus &&& Status.mprv) >>> 17) b)
      (exchangeMprv case b).state := by
  have logged := steps_append b ((b.hart.csrs.read .mstatus &&& Status.mprv) >>> 17)
  unfold exchangeMprv
  rw [Run.bind_apply_of_ok (a := b.hart.csrs.read .mstatus) rfl, Run.bind_apply]
  generalize (b.hart.csrs.read .mstatus &&& Status.mprv) >>> 17 = flag at logged ⊢
  have answer : (getCsr .mstatus b).state = b := rfl
  rw [answer]
  cases (append flag b).result with
  | error e => exact logged
  | ok _ => exact logged.silent (.hart _ _)

theorem steps_setAndLog (a : CsrAddress) (w : Word) :
    Steps b (appendEvents w b) (setAndLog a w b).state := by
  have written := steps_hart b (b.hart.writeCsr a w)
  have logged := steps_append { b with hart := b.hart.writeCsr a w } w
  rw [appendEvents_hart] at logged
  rw [setAndLog_apply]
  exact written.trans logged

/-- A routine that needs no memory takes steps with its events. -/
theorem steps_routine {case : TestCase} {routine : Routine} {run : Run Bench Unit}
    (own : routine? case routine = some run) : Steps b (routineEvents case b routine) (run b).state := by
  cases routine with
  | store width => cases own
  | load width => cases own
  | fetch => cases own
  | finish =>
    cases own
    rw [state_discard]
    exact steps_terminate b
  | setPaging scheme =>
    cases own
    exact steps_hart b _
  | setPageAccess =>
    cases own
    exact steps_hart b _
  | exchangeMprv =>
    cases own
    exact steps_exchangeMprv b case
  | goto target =>
    cases own
    rw [state_discard]
    exact steps_call b _
  | setPmpConfig n =>
    cases own
    exact steps_setAndLog b _ _
  | setPmpAddress n =>
    cases own
    exact steps_setAndLog b _ _

/-- A routine that is for a probe has no events of its own. -/
theorem routineEvents_of_probe {case : TestCase} {routine : Routine}
    (memory : routine? case routine = none) : routineEvents case b routine = [] := by
  cases routine with
  | store width => rfl
  | load width => rfl
  | fetch => rfl
  | _ => cases memory

end Bench

namespace Operation

/-- A bench that is saved and loaded again is the same bench. -/
theorem perform_reload {b : Bench} (fits : b.log.Fits) : perform .reload b = ⟨.ok .done, b, []⟩ := by
  rw [perform, Run.bind_apply_of_ok (a := b) rfl, Run.map_apply, Bench.load_save fits]
  rfl

theorem perform_restore {b : Bench} (fits : b.log.Fits) : perform .restore b = ⟨.ok .done, b, []⟩ := by
  rw [perform, Run.bind_apply_of_ok (a := b) rfl, Run.map_apply, Bench.restore_snapshot fits]
  rfl

/-- An operation other than a script. -/
def IsPlain (o : Operation) : Prop :=
  ∀ script, o ≠ play script

/-- A plain operation takes steps with its own events. -/
theorem steps_own {o : Operation} {b : Bench} (plain : o.IsPlain) (fits : b.log.Fits) :
    b.Steps (o.ownEvents b) (o.perform b).state := by
  cases o with
  | install mode base vectoring => exact b.steps_install mode base vectoring
  | delegate exceptions interrupts => exact b.steps_hart _
  | setMode mode => exact b.steps_hart _
  | setPc pc => exact b.steps_hart _
  | setRegister r w => exact b.steps_hart _
  | setCsr a w => exact b.steps_hart _
  | setHart hart => exact b.steps_hart hart
  | raise trap => exact b.steps_raise trap
  | call request => exact b.steps_call request
  | terminate => exact b.steps_terminate
  | append w => exact b.steps_append w
  | rebase cursor => exact .single (.rebase b cursor)
  | runCase case routine =>
    cases own : Bench.routine? case routine with
    | some run =>
      rw [perform, own]
      exact b.steps_routine own
    | none =>
      rw [perform, own, ownEvents, b.routineEvents_of_probe own]
      exact .refl b
  | play script => exact absurd rfl (plain script)
  | reload =>
    rw [perform_reload fits]
    exact .refl b
  | restore =>
    rw [perform_restore fits]
    exact .refl b

theorem steps_ownHistory {os : List Operation} (plain : ∀ o ∈ os, o.IsPlain) {b : Bench}
    (fits : b.log.Fits) : b.Steps (ownHistory os b) (session os b) := by
  induction os generalizing b with
  | nil => exact .refl b
  | cons o os ih =>
    have first := steps_own (plain o List.mem_cons_self) fits
    have rest := ih (fun o ho => plain o (List.mem_cons_of_mem _ ho)) (first.logs.fits fits)
    exact first.trans rest

theorem isPlain_command (c : Script.Command) (b : Bench) : (c.operation b).IsPlain := by
  intro script same
  cases c <;> cases same

/-- The operations of a script are those of its commands. -/
theorem command_of_mem_script {script : List Script.Line} {b : Bench} {o : Operation}
    (member : o ∈ Script.course script b) : ∃ c before, o = Script.Command.operation before c := by
  induction script generalizing b with
  | nil => exact absurd member List.not_mem_nil
  | cons line rest ih =>
    unfold Script.course at member
    split at member
    · exact absurd member List.not_mem_nil
    · dsimp only at member
      split at member
      · rcases List.mem_cons.mp member with own | member
        · exact ⟨line.command, b, own⟩
        · exact ih member
      · exact ⟨line.command, b, List.mem_singleton.mp member⟩

/-- A course is taken apart as far as it can be. -/
theorem isPlain_of_mem_course {o part : Operation} {b : Bench} (member : part ∈ o.course b) :
    part.IsPlain := by
  cases o with
  | play script =>
    obtain ⟨c, before, rfl⟩ := command_of_mem_script member
    exact isPlain_command c before
  | _ =>
    rcases List.mem_singleton.mp member with rfl
    intro script same
    cases same

/-- The operations that a session comes down to are those of its operations. -/
theorem course_of_mem_fullCourse {os : List Operation} {b : Bench} {part : Operation}
    (member : part ∈ fullCourse os b) : ∃ o ∈ os, ∃ before, part ∈ o.course before := by
  induction os generalizing b with
  | nil => exact absurd member List.not_mem_nil
  | cons o os ih =>
    rcases List.mem_append.mp member with own | later
    · exact ⟨o, List.mem_cons_self, b, own⟩
    · obtain ⟨o', among, before, member⟩ := ih later
      exact ⟨o', List.mem_cons_of_mem _ among, before, member⟩

/-- An operation takes steps with its events. -/
theorem steps (o : Operation) {b : Bench} (fits : b.log.Fits) :
    b.Steps (o.events b) (o.perform b).state := by
  have plain : ∀ part ∈ o.course b, part.IsPlain := fun _ => isPlain_of_mem_course
  have parts := steps_ownHistory plain fits
  rw [session_course] at parts
  exact parts

/-- A session takes steps with its history. -/
theorem steps_history (os : List Operation) {b : Bench} (fits : b.log.Fits) :
    b.Steps (history os b) (session os b) := by
  induction os generalizing b with
  | nil => exact .refl b
  | cons o os ih =>
    have first := o.steps fits
    exact first.trans (ih (first.logs.fits fits))

end Operation

namespace Bench

theorem fits_start (settings : Settings) : (start settings).log.Fits :=
  Log.fits_empty _ _ _

theorem settled_start (settings : Settings) : (start settings).Settled :=
  .inl rfl

end Bench

namespace Task

/-- A session of tasks is one of operations. -/
theorem session_eq (ts : List Task) (os : List Operation) (b : Bench) :
    Operation.session os (session ts b) = Operation.session (fullCourse ts b ++ os) b := by
  rw [Operation.session_append, session_fullCourse]

/-- Tasks, and operations after them, take steps with the history of their course. -/
theorem steps_session (ts : List Task) (os : List Operation) {b : Bench} (fits : b.log.Fits) :
    b.Steps (Operation.history (fullCourse ts b ++ os) b) (Operation.session os (session ts b)) := by
  rw [session_eq]
  exact Operation.steps_history _ fits

end Task

end HartTraps
