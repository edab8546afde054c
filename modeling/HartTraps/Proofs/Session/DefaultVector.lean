import HartTraps.Proofs.Session.Installation
import HartTraps.Proofs.Trap.Closing

/-!
# The vector to which a run returns

The Machine trap vector is remembered whenever a Machine handler is installed, and nothing else changes
what is remembered: no trap, no other installation, no reload. A run that ends writes it back. So the
last installation decides with which vector a run ends; a run without any ends with the vector 0.
-/

namespace HartTraps

/-- The installation of a Machine handler. -/
def Operation.InstallsMachine : Operation → Prop
  | install .machine _ _ => True
  | _ => False

namespace Bench

/-! ## What is remembered -/

/-- Only the installation of a Machine handler changes the vector that is remembered. -/
theorem Step.defaultVector {b c : Bench} {es : List Event} (step : Step b es c)
    (quiet : .installed .machine ∉ es) : c.defaultVector = b.defaultVector := by
  cases step with
  | hart hart => rfl
  | install level base vectoring =>
    cases level with
    | machine => exact absurd List.mem_cons_self quiet
    | supervisor => rfl
  | @trap t a admits => exact (take_settles { b with log := a.log } a.level a.frame t).keeps.defaultVector
  | close idle => rfl
  | append room => rfl
  | rebase cursor => rfl

theorem Steps.defaultVector {b c : Bench} {es : List Event} (steps : Steps b es c)
    (quiet : .installed .machine ∉ es) : c.defaultVector = b.defaultVector := by
  induction steps with
  | refl => rfl
  | step one _ ih =>
    have first := one.defaultVector fun member => quiet (List.mem_append_left _ member)
    exact (ih fun member => quiet (List.mem_append_right _ member)).trans first

end Bench

namespace Operation

open Bench

theorem installsMachine_of_installs {o : Operation} (installs : o.Installs .machine) :
    o.InstallsMachine := by
  obtain ⟨base, vectoring, rfl⟩ := installs
  exact trivial

/-! ## Runs -/

section Runs

variable {os before after : List Operation} {b : Bench}

/-- Without the installation of a Machine handler the same vector stays remembered. -/
theorem defaultVector_of_quiet (plain : ∀ o ∈ os, o.IsPlain) (fits : b.log.Fits)
    (quiet : ∀ o ∈ os, ¬o.InstallsMachine) : (session os b).defaultVector = b.defaultVector := by
  apply (steps_ownHistory plain fits).defaultVector
  exact installed_notMem_ownHistory
    (fun o among installs => quiet o among (installsMachine_of_installs installs)) b

/-- The last installation of a Machine handler decides which vector is remembered. -/
theorem defaultVector_of_last {base : Word} {vectoring : Vectoring}
    (plain : ∀ o ∈ before ++ .install .machine base vectoring :: after, o.IsPlain)
    (fits : b.log.Fits) (last : ∀ o ∈ after, ¬o.InstallsMachine) :
    (session (before ++ .install .machine base vectoring :: after) b).defaultVector =
      (session before b).hart.csrs.read .mtvec := by
  have quiet := installed_notMem_ownHistory
    (fun o among installs => last o among (installsMachine_of_installs installs))
    (session (before ++ [.install .machine base vectoring]) b)
  calc (session (before ++ .install .machine base vectoring :: after) b).defaultVector
      = (session (before ++ [.install .machine base vectoring]) b).defaultVector :=
        (steps_since plain fits).defaultVector quiet
    _ = (session before b).hart.csrs.read .mtvec := by
        rw [session_append]
        rfl

end Runs

end Operation

namespace Bench

/-- A run that ends writes back the vector that is remembered. -/
theorem mtvec_of_terminate {b : Bench} {o : Outcome} (ended : (terminate b).result = .ok o) :
    (terminate b).state.hart.csrs.read .mtvec = b.defaultVector := by
  obtain ⟨-, -, closed⟩ := state_of_terminate ended
  have called : (call closingRequest b).state.defaultVector = b.defaultVector :=
    (steps_call b closingRequest).defaultVector (installed_notMem_trapEvents _ _ _)
  rw [closed, ← called]
  exact CsrFile.read_write_self _ _ _

/-- When a run ends after any tasks, and any operations since, the Machine trap vector is the one that
stood there right before the last installation of a Machine handler. It is 0 if there was none. -/
theorem vector_of_terminate (settings : Settings) (ts : List Task) (os : List Operation) {o : Outcome}
    (ended : (terminate (Operation.session os (Task.session ts (start settings)))).result = .ok o) :
    let b := Operation.session os (Task.session ts (start settings))
    let run := Operation.fullCourse (Task.fullCourse ts (start settings) ++ os) (start settings)
    b = Operation.session run (start settings) ∧
      (∀ before base vectoring after, run = before ++ .install .machine base vectoring :: after →
        (∀ o ∈ after, ¬o.InstallsMachine) →
        (terminate b).state.hart.csrs.read .mtvec =
          (Operation.session before (start settings)).hart.csrs.read .mtvec) ∧
      ((∀ o ∈ run, ¬o.InstallsMachine) → (terminate b).state.hart.csrs.read .mtvec = 0) := by
  intro b run
  have whole : b = Operation.session run (start settings) := by
    rw [Operation.session_fullCourse]
    exact Task.session_eq ts os (start settings)
  have plain : ∀ o ∈ run, o.IsPlain := by
    intro o among
    obtain ⟨_, -, _, member⟩ := Operation.course_of_mem_fullCourse among
    exact Operation.isPlain_of_mem_course member
  have fits := fits_start settings
  have vector : (terminate b).state.hart.csrs.read .mtvec =
      (Operation.session run (start settings)).defaultVector := by
    rw [← whole]
    exact mtvec_of_terminate ended
  refine ⟨whole, ?last, ?never⟩
  case last =>
    intro before base vectoring after split last
    rw [vector, split]
    exact Operation.defaultVector_of_last (split ▸ plain) fits last
  case never =>
    intro quiet
    rw [vector]
    exact Operation.defaultVector_of_quiet plain fits quiet

/-- A host that installs a Machine handler again after it has moved the vector. -/
def reinstalling : List Operation :=
  [.setCsr .mtvec 0x40, .install .machine 0x80000100 .vectored, .setCsr .mtvec 0x44,
    .install .supervisor 0x80000300 .direct, .install .machine 0x80000200 .direct,
    .raise (.exception 2 .user 0x4000)]

/-- Its run ends with the vector that it moved to, not with the first one. -/
theorem vector_of_terminate_reinstalling :
    (terminate (Operation.session reinstalling (Task.session [] (start {})))).result =
        .ok (.halted .pass) ∧
      (terminate (Operation.session reinstalling (Task.session [] (start {})))).state.hart.csrs.read
        .mtvec = 0x44 := by
  have ended : (terminate (Operation.session reinstalling (Task.session [] (start {})))).result =
      .ok (.halted .pass) :=
    terminate_eq_ok_iff.mpr ⟨rfl, raise_eq_ok_iff.mpr ⟨by decide, by decide, by decide⟩⟩
  obtain ⟨-, last, -⟩ := vector_of_terminate {} [] reinstalling ended
  refine ⟨ended, ?_⟩
  have vector := last (reinstalling.take 4) 0x80000200 .direct (reinstalling.drop 5) rfl
    (by simp [reinstalling, Operation.InstallsMachine])
  rw [vector]
  decide

/-- A host without a Machine handler of its own, which has its calls served by Supervisor. -/
def unhandled : List Operation :=
  [.setCsr .mtvec 0x80000004, .install .supervisor 0x80000300 .direct, .delegate 0x100 0,
    .setMode .user]

/-- Its run ends with the vector 0, although nobody has asked for that vector. -/
theorem terminate_clears_vector :
    (∀ o ∈ unhandled, ¬o.InstallsMachine) ∧
      (terminate (Operation.session unhandled (start {}))).result = .ok (.halted .pass) ∧
      (Operation.session unhandled (start {})).hart.csrs.read .mtvec = 0x80000004 ∧
      (terminate (Operation.session unhandled (start {}))).state.hart.csrs.read .mtvec = 0 := by
  have ended : (terminate (Operation.session unhandled (start {}))).result = .ok (.halted .pass) :=
    terminate_eq_ok_iff.mpr ⟨rfl, raise_eq_ok_iff.mpr ⟨by decide, by decide, by decide⟩⟩
  exact ⟨by simp [unhandled, Operation.InstallsMachine], ended, by decide, by decide⟩

end Bench

end HartTraps
