import HartTraps.Bench.Call
import HartTraps.Bench.Setup
import HartTraps.TestTable.Labels

/-!
# Walking a test table

The cases of a table run in order until the run ends. Control-register routines and mode changes are
carried out here; a case that accesses memory is handed to a probe, which acts on the bench and on a
state of its own.
-/

namespace HartTraps

/-- Carries out the cases that access memory. -/
abbrev Probe (σ : Type) := TestCase → Routine → Run (Bench × σ) Unit

namespace Paging

/-- The number of a scheme in the mode field of `satp`. -/
def mode : Paging → Word
  | bare => 0
  | sv39 => 8
  | sv48 => 9

/-- The word that selects a scheme: the operands of the case are shifted into place and not cut. -/
def satp (scheme : Paging) (case : TestCase) : Word :=
  match scheme with
  | bare => 0
  | _ => (scheme.mode <<< 60) ||| (case.value <<< 44) ||| case.address

end Paging

namespace Bench

/-- Selects a paging scheme. -/
def setPaging (scheme : Paging) (case : TestCase) : Run Bench Unit :=
  setCsr .satp (scheme.satp case)

/-- The two low bits of the value become the rights to user pages and executable pages. -/
def setPageAccess (case : TestCase) : Run Bench Unit := do
  let status ← getCsr .mstatus
  let rights := Status.mxr ||| Status.sum
  setCsr .mstatus ((status &&& ~~~rights) ||| ((case.value <<< 18) &&& rights))

/-- Logs the flag that redirects loads and stores, replaces it by the low bit of the value, and makes
Supervisor the previous mode that it refers to. -/
def exchangeMprv (case : TestCase) : Run Bench Unit := do
  let status ← getCsr .mstatus
  append ((status &&& Status.mprv) >>> 17)
  setCsr .mstatus
    ((status &&& ~~~(Status.mprv ||| Status.mpp)) ||| ((case.value &&& 1) <<< 17) |||
      (Mode.supervisor.code <<< 11))

/-- Sets a register of the protection unit and logs what it then holds. -/
def setAndLog (a : CsrAddress) (w : Word) : Run Bench Unit := do
  setCsr a w
  append (← getCsr a)

/-- The register is set before the log is asked for room, and reads back as the word. -/
theorem setAndLog_apply (a : CsrAddress) (w : Word) (b : Bench) :
    setAndLog a w b = append w { b with hart := b.hart.writeCsr a w } := by
  show append ((b.hart.csrs.write a w).read a) { b with hart := b.hart.writeCsr a w } = _
  rw [CsrFile.read_write_self]

/-- Carries out a routine that needs no memory; `none` means that the routine is for the probe. -/
def routine? (case : TestCase) : Routine → Option (Run Bench Unit)
  | .goto target => some do
    let _ ← call { op := (CallOp.goto target).code, page := case.address, pageType := case.value }
  | .finish => some do
    let _ ← terminate
  | .setPaging scheme => some (setPaging scheme case)
  | .setPageAccess => some (setPageAccess case)
  | .exchangeMprv => some (exchangeMprv case)
  | .setPmpConfig n => some (setAndLog (.pmpConfig n) case.value)
  | .setPmpAddress n => some (setAndLog (.pmpAddress n) case.value)
  | .store _ | .load _ | .fetch => none

end Bench

namespace TestTable

variable {σ : Type}

/-- Carries out one case. -/
def runCase (probe : Probe σ) (case : TestCase) (routine : Routine) : Run (Bench × σ) Unit :=
  match Bench.routine? case routine with
  | some run => run.onFirst
  | none => probe case routine

/-- Walks the cases from number `index` on. A run that has ended by then gives its verdict; a table
that ends before the run does is an error. -/
def walkFrom (labels : Labels) (probe : Probe σ) : Nat → List TestCase → Run (Bench × σ) Verdict
  | _, [] => do
    match (← Run.get).1.verdict? with
    | some verdict => return verdict
    | none => Run.fail .tableExhausted
  | index, case :: cases => do
    match (← Run.get).1.verdict? with
    | some verdict => return verdict
    | none =>
      match labels.find? case.tag with
      | none => Run.fail (.unknownLabel index case.label)
      | some routine =>
        Run.note (.caseStarted index case routine)
        runCase probe case routine
        walkFrom labels probe (index + 1) cases

/-- Walks a whole test table. -/
def walk (labels : Labels) (probe : Probe σ) (cases : List TestCase) : Run (Bench × σ) Verdict :=
  walkFrom labels probe 0 cases

section Cons

variable {labels : Labels} {probe : Probe σ} {index : Nat} {case : TestCase} {cases : List TestCase}
  {s : Bench × σ}

theorem runCase_of_own {routine : Routine} {run : Run Bench Unit}
    (own : Bench.routine? case routine = some run) :
    runCase probe case routine = run.onFirst := by
  unfold runCase
  rw [own]

theorem runCase_of_probe {routine : Routine} (memory : Bench.routine? case routine = none) :
    runCase probe case routine = probe case routine := by
  unfold runCase
  rw [memory]

theorem walkFrom_of_verdict {v : Verdict} (ended : s.1.verdict? = some v) :
    walkFrom labels probe index cases s = ⟨.ok v, s, []⟩ := by
  cases cases with
  | nil =>
    rw [walkFrom, Run.bind_apply_of_ok (a := s) rfl]
    simp only [Run.get, ended]
    rfl
  | cons case cases =>
    rw [walkFrom, Run.bind_apply_of_ok (a := s) rfl]
    simp only [Run.get, ended]
    rfl

theorem walkFrom_nil (running : s.1.verdict? = none) :
    walkFrom labels probe index [] s = ⟨.error .tableExhausted, s, []⟩ := by
  rw [walkFrom, Run.bind_apply_of_ok (a := s) rfl]
  simp only [Run.get, running]
  rfl

theorem walkFrom_of_unknown (running : s.1.verdict? = none)
    (unknown : labels.find? case.tag = none) :
    walkFrom labels probe index (case :: cases) s =
      ⟨.error (.unknownLabel index case.label), s, []⟩ := by
  rw [walkFrom, Run.bind_apply_of_ok (a := s) rfl]
  simp only [Run.get, running, unknown]
  rfl

variable {routine : Routine} (running : s.1.verdict? = none)
  (known : labels.find? case.tag = some routine)

include running known

theorem walkFrom_of_error {e : BenchError}
    (refused : (runCase probe case routine s).result = .error e) :
    walkFrom labels probe index (case :: cases) s =
      ⟨.error e, (runCase probe case routine s).state,
        .caseStarted index case routine :: (runCase probe case routine s).notes⟩ := by
  rw [walkFrom, Run.bind_apply_of_ok (a := s) rfl]
  simp only [Run.get, running, known]
  rw [Run.bind_apply_of_ok (a := ()) rfl]
  simp only [Run.note, Run.bind_apply_of_error refused, List.nil_append, List.singleton_append]

theorem walkFrom_of_ok (done : (runCase probe case routine s).result = .ok ()) :
    walkFrom labels probe index (case :: cases) s =
      ⟨(walkFrom labels probe (index + 1) cases (runCase probe case routine s).state).result,
        (walkFrom labels probe (index + 1) cases (runCase probe case routine s).state).state,
        .caseStarted index case routine :: ((runCase probe case routine s).notes ++
          (walkFrom labels probe (index + 1) cases (runCase probe case routine s).state).notes)⟩ := by
  rw [walkFrom, Run.bind_apply_of_ok (a := s) rfl]
  simp only [Run.get, running, known]
  rw [Run.bind_apply_of_ok (a := ()) rfl]
  simp only [Run.note, Run.bind_apply_of_ok done, List.nil_append, List.singleton_append]

end Cons

/-- A walk goes from case to case until the run has ended, the table is used up, the label of a case names
no routine, or a case fails. -/
@[elab_as_elim]
theorem walk_induction (labels : Labels) (probe : Probe σ) {motive : List TestCase → Bench × σ → Prop}
    (ended : ∀ cases s v, s.1.verdict? = some v → motive cases s)
    (exhausted : ∀ s, s.1.verdict? = none → motive [] s)
    (unknown : ∀ case cases s, s.1.verdict? = none → labels.find? case.tag = none →
      motive (case :: cases) s)
    (failed : ∀ case cases s routine e, s.1.verdict? = none → labels.find? case.tag = some routine →
      (runCase probe case routine s).result = .error e → motive (case :: cases) s)
    (done : ∀ case cases s routine, s.1.verdict? = none → labels.find? case.tag = some routine →
      (runCase probe case routine s).result = .ok () →
      motive cases (runCase probe case routine s).state → motive (case :: cases) s)
    (cases : List TestCase) (s : Bench × σ) : motive cases s := by
  induction cases generalizing s with
  | nil =>
    cases running : s.1.verdict? with
    | some v => exact ended [] s v running
    | none => exact exhausted s running
  | cons case rest ih =>
    cases running : s.1.verdict? with
    | some v => exact ended _ s v running
    | none =>
      cases known : labels.find? case.tag with
      | none => exact unknown case rest s running known
      | some routine =>
        cases answer : (runCase probe case routine s).result with
        | error e => exact failed case rest s routine e running known answer
        | ok _ => exact done case rest s routine running known answer (ih _)

end TestTable

end HartTraps
