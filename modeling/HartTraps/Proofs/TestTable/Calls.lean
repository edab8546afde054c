import HartTraps.Proofs.Script.Parts
import HartTraps.Proofs.TestTable.Parts

/-!
# Tables of calls as scripts

A table whose cases only change the mode or end the run asks for the same as a script with one command for
each case. Walking the one and playing the other leave the same bench, and fail with the same errors; but
a table is also expected to end the run.
-/

namespace HartTraps

/-- The command that asks for the same as a case, if its routine changes the mode or ends the run. -/
def TestCase.command? (case : TestCase) : Routine → Option Script.Command
  | .goto .machine => some (.call 2 case.address case.value)
  | .goto .supervisor => some (.call 3 case.address case.value)
  | .goto .user => some (.call 4 case.address case.value)
  | .finish => some .terminate
  | _ => none

/-- Such a case does what its command does; it does not tell the outcome. -/
theorem TestCase.routine?_of_command? {case : TestCase} {routine : Routine} {c : Script.Command}
    (same : case.command? routine = some c) :
    Bench.routine? case routine = some ((fun _ => ()) <$> c.play) := by
  cases routine with
  | goto target =>
    cases target <;>
    · cases same
      simp only [Bench.routine?, Script.Command.play, CallOp.code, bind_pure_comp, Functor.map_map]
  | finish =>
    cases same
    simp only [Bench.routine?, Script.Command.play, bind_pure_comp, Functor.map_map]
  | _ => cases same

namespace Script

/-- A command fails because no handler can be installed at its level, because the log is full, or because
a trap is refused. -/
theorem refuses_of_play {c : Command} {b : Bench} {e : BenchError}
    (failed : (c.play b).result = .error e) :
    (∃ mode, e = .invalidHandlerLevel mode) ∨ e = .logFull b.log.capacity ∨
      ∃ d t, Bench.Refuses d t e := by
  have failed := error_of_play c b failed
  cases c with
  | install mode base vectoring =>
    obtain ⟨-, invalid⟩ := Bench.install_eq_error_iff.mp (Run.result_map_eq_error.mp failed)
    exact .inl ⟨_, invalid⟩
  | log w => exact .inr (.inl (Bench.append_eq_error_iff.mp (Run.result_map_eq_error.mp failed)).2)
  | trap cause address instruction =>
    exact .inr (.inr ⟨b, _, Bench.refuses_of_raise (Run.result_map_eq_error.mp failed)⟩)
  | call op page pageType =>
    exact .inr (.inr ⟨_, _, Bench.refuses_of_call (Run.result_map_eq_error.mp failed)⟩)
  | terminate =>
    have refused := Bench.terminate_eq_error_iff.mp (Run.result_map_eq_error.mp failed)
    exact .inr (.inr ⟨_, _, Bench.refuses_of_call refused⟩)
  | _ => cases failed

/-- No script reports that a table is used up. -/
theorem play_ne_exhausted (script : List Line) (b : Bench) :
    (play script b).result ≠ .error .tableExhausted := by
  intro exhausted
  induction script, b using play_induction with
  | nil b => cases exhausted
  | ended line rest b v running =>
    rw [play_of_verdict running] at exhausted
    cases exhausted
  | failed line rest b e running answer =>
    rw [play_of_error running answer] at exhausted
    cases exhausted
    rcases refuses_of_play answer with ⟨mode, invalid⟩ | full | ⟨d, t, refuses⟩
    · cases invalid
    · cases full
    · cases refuses
  | done line rest b outcome running answer ih =>
    rw [play_of_ok running answer] at exhausted
    exact ih (Run.map_eq_error.mp exhausted)

end Script

namespace TestTable

variable {σ : Type} {labels : Labels} {probe : Probe σ} {cases : List TestCase}

/-- The commands of the cases that change the mode or end the run, in order. -/
def commands (labels : Labels) (cases : List TestCase) : List Script.Command :=
  cases.filterMap fun case => (labels.find? case.tag).bind case.command?

/-- A table of which every case changes the mode or ends the run. -/
def OnlyCalls (labels : Labels) (cases : List TestCase) : Prop :=
  ∀ case ∈ cases, ∃ routine, labels.find? case.tag = some routine ∧
    (routine = .finish ∨ ∃ target, routine = .goto target)

theorem commands_cons {case : TestCase} {routine : Routine} {c : Script.Command}
    (known : labels.find? case.tag = some routine) (command : case.command? routine = some c) :
    commands labels (case :: cases) = c :: commands labels cases := by
  unfold commands
  rw [List.filterMap_cons, known, Option.bind_some, command]

/-- A script of such a table begins with a line for the first case. -/
theorem OnlyCalls.line {case : TestCase} {routine : Routine} {script : List Script.Line}
    (calls : OnlyCalls labels (case :: cases)) (known : labels.find? case.tag = some routine)
    (same : script.map (·.command) = commands labels (case :: cases)) :
    ∃ line rest, script = line :: rest ∧ case.command? routine = some line.command ∧
      rest.map (·.command) = commands labels cases := by
  have command : ∃ c, case.command? routine = some c := by
    obtain ⟨named, found, call⟩ := calls case List.mem_cons_self
    cases known.symm.trans found
    rcases call with rfl | ⟨target, rfl⟩
    · exact ⟨_, rfl⟩
    · cases target <;> exact ⟨_, rfl⟩
  obtain ⟨c, command⟩ := command
  rw [commands_cons known command] at same
  obtain ⟨line, rest, rfl, rfl, others⟩ := List.map_eq_cons_iff.mp same
  exact ⟨line, rest, rfl, command, others⟩

/-- The answer to a walk whose calls, played as a script, get the answer `played`. -/
def answerAfter (played : Reply Bench (List Script.Report)) : Except BenchError Verdict :=
  match played.result with
  | .error e => .error e
  | .ok _ => played.state.verdict?.elim (.error .tableExhausted) .ok

section AnswerAfter

variable {played : Reply Bench (List Script.Report)}

theorem answerAfter_of_error {e : BenchError} (failed : played.result = .error e) :
    answerAfter played = .error e := by
  unfold answerAfter
  rw [failed]

variable {reports : List Script.Report} (done : played.result = .ok reports)

include done

theorem answerAfter_of_verdict {v : Verdict} (ended : played.state.verdict? = some v) :
    answerAfter played = .ok v := by
  unfold answerAfter
  rw [done, ended]
  rfl

theorem answerAfter_of_running (running : played.state.verdict? = none) :
    answerAfter played = .error .tableExhausted := by
  unfold answerAfter
  rw [done, running]
  rfl

end AnswerAfter

/-- The answer does not depend on the reports. -/
theorem answerAfter_map (f : List Script.Report → List Script.Report)
    (played : Reply Bench (List Script.Report)) (notes : List Note) :
    answerAfter ⟨played.result.map f, played.state, notes⟩ = answerAfter played := by
  unfold answerAfter
  cases played.result <;> rfl

/-- A table of calls is walked as its script is played. -/
theorem walkFrom_calls {index : Nat} {script : List Script.Line} {s : Bench × σ}
    (calls : OnlyCalls labels cases) (same : script.map (·.command) = commands labels cases) :
    (walkFrom labels probe index cases s).state = ((Script.play script s.1).state, s.2) ∧
      (walkFrom labels probe index cases s).result = answerAfter (Script.play script s.1) := by
  induction cases, s using walk_induction labels probe generalizing index script with
  | ended cases s v running =>
    obtain ⟨state, result⟩ := Script.play_of_ended running script
    rw [walkFrom_of_verdict running, answerAfter_of_verdict result (state.symm ▸ running), state]
    exact ⟨rfl, rfl⟩
  | exhausted s running =>
    cases List.map_eq_nil_iff.mp same
    rw [walkFrom_nil running]
    exact ⟨rfl, (answerAfter_of_running rfl running).symm⟩
  | unknown case cases s running unknown =>
    obtain ⟨routine, found, -⟩ := calls case List.mem_cons_self
    cases unknown.symm.trans found
  | failed case cases s routine e running known answer =>
    obtain ⟨line, rest, rfl, command, same⟩ := calls.line known same
    rw [walkFrom_of_error running known answer]
    rw [runCase_of_own (TestCase.routine?_of_command? command)] at answer ⊢
    rw [Script.play_of_error running (Run.result_map_eq_error.mp answer)]
    exact ⟨rfl, rfl⟩
  | done case cases s routine running known answer ih =>
    obtain ⟨line, rest, rfl, command, same⟩ := calls.line known same
    have later : OnlyCalls labels cases := fun other member => calls other (List.mem_cons_of_mem _ member)
    rw [walkFrom_of_ok running known answer]
    rw [runCase_of_own (TestCase.routine?_of_command? command)] at answer ih ⊢
    obtain ⟨outcome, played⟩ : ∃ outcome, (line.command.play s.1).result = .ok outcome := by
      cases played : (line.command.play s.1).result with
      | ok outcome => exact ⟨outcome, rfl⟩
      | error e => cases (Run.result_map_eq_error.mpr played).symm.trans answer
    rw [Script.play_of_ok running played, answerAfter_map]
    exact ih later same

/-- A table of calls and a script with its commands, on whatever lines, do the same to a bench, and the probe
keeps its state. The script fails exactly with the errors of the walk other than that the table is used up.
If the script does not fail, the walk answers with the verdict of the run or, if the run goes on, that the
table is used up. -/
theorem walk_calls (labels : Labels) (probe : Probe σ) {cases : List TestCase}
    (calls : OnlyCalls labels cases) {script : List Script.Line}
    (same : script.map (·.command) = commands labels cases) (s : Bench × σ) :
    let played := Script.play script s.1
    let walked := walk labels probe cases s
    walked.state = (played.state, s.2) ∧
      (∀ e, played.result = .error e ↔ walked.result = .error e ∧ e ≠ .tableExhausted) ∧
      ∀ reports, played.result = .ok reports →
        (∀ v, played.state.phase = .halted v → walked.result = .ok v) ∧
          ((∀ v, played.state.phase ≠ .halted v) → walked.result = .error .tableExhausted) := by
  intro played walked
  obtain ⟨state, result⟩ : walked.state = (played.state, s.2) ∧ walked.result = answerAfter played :=
    walkFrom_calls calls same
  refine ⟨state, ?errors, ?verdicts⟩
  case errors =>
    intro e
    constructor
    · intro failed
      refine ⟨result.trans (answerAfter_of_error failed), ?_⟩
      rintro rfl
      exact Script.play_ne_exhausted script s.1 failed
    · rintro ⟨failed, other⟩
      rw [result] at failed
      cases answer : played.result with
      | error f =>
        cases (answerAfter_of_error answer).symm.trans failed
        rfl
      | ok reports =>
        cases ended : played.state.verdict? with
        | some v => cases (answerAfter_of_verdict answer ended).symm.trans failed
        | none =>
          cases (answerAfter_of_running answer ended).symm.trans failed
          exact absurd rfl other
  case verdicts =>
    intro reports answer
    refine ⟨?_, ?_⟩
    · intro v halted
      exact result.trans (answerAfter_of_verdict answer (Bench.verdict?_eq_some_iff.mpr halted))
    · intro goes
      cases ended : played.state.verdict? with
      | some v => exact absurd (Bench.verdict?_eq_some_iff.mp ended) (goes v)
      | none => exact result.trans (answerAfter_of_running answer ended)

/-- A bench that logs causes and has room for one. -/
def crowded : Bench :=
  (Bench.start { recordCauses := true, logCapacity := 1 }).withHandler .machine 0x80000100 .vectored

/-- A move to another page in User mode and the end of the run. -/
def departing : List TestCase :=
  [⟨0x40000000, 1, 68⟩, ⟨0, 0, 36⟩]

/-- The same calls on lines of a script. -/
def departure : List Script.Line :=
  [⟨3, .call 4 0x40000000 1⟩, ⟨7, .terminate⟩]

theorem departing_onlyCalls : OnlyCalls .standard departing := by
  intro case member
  rcases List.mem_cons.mp member with rfl | member
  · exact ⟨.goto .user, by rfl, .inr ⟨.user, rfl⟩⟩
  · rcases List.mem_singleton.mp member with rfl
    exact ⟨.finish, by rfl, .inl rfl⟩

/-- The cause of the second call has no room, whatever probe comes with the table. -/
theorem walk_calls_crowded :
    departure.map (·.command) = commands .standard departing ∧
      (Script.play departure crowded).result = .error (.logFull 1) ∧
      ∀ probe : Probe Unit, (walk .standard probe departing (crowded, ())).result = .error (.logFull 1) ∧
        (walk .standard probe departing (crowded, ())).state.1.hart.mode = .user := by
  have same : departure.map (·.command) = commands .standard departing := by rfl
  have full : (Script.play departure crowded).result = .error (.logFull 1) := by rfl
  refine ⟨same, full, ?_⟩
  intro probe
  obtain ⟨state, errors, -⟩ := walk_calls .standard probe departing_onlyCalls same (crowded, ())
  refine ⟨((errors _).mp full).1, ?_⟩
  rw [state]
  rfl

end TestTable

end HartTraps
