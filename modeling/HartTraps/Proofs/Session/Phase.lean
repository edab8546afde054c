import HartTraps.Proofs.Session.Operations
import HartTraps.Proofs.Trap.Refusal

/-!
# The phase between two operations

No operation leaves a bench within a handler, so no trap is ever refused as nested. A run that has
ended keeps its verdict: it refuses every further trap and, while it does, nothing but the argument
registers of a call changes.
-/

namespace HartTraps

namespace Bench

variable {b : Bench}

/-! ## No nested traps -/

theorem raise_ne_nested (settled : b.Settled) (t : Trap) (level : Mode) :
    (raise t b).result ≠ .error (.nestedTrap level) := by
  intro nested
  cases refuses_of_raise nested with
  | nested busy =>
    rcases settled with idle | ⟨v, halted⟩
    · rw [idle] at busy
      rcases busy with busy | busy <;> cases busy
    · rw [halted] at busy
      rcases busy with busy | busy <;> cases busy

theorem call_ne_nested (settled : b.Settled) (r : CallRequest) (level : Mode) :
    (call r b).result ≠ .error (.nestedTrap level) := by
  rw [call_apply]
  exact raise_ne_nested (b := b.setRequest r) settled _ level

/-- A routine fails because the log is full or because its call is refused. -/
theorem error_of_routine {case : TestCase} {routine : Routine} {run : Run Bench Unit} {e : BenchError}
    (own : routine? case routine = some run) (refused : (run b).result = .error e) :
    e = .logFull b.log.capacity ∨ ∃ r, (call r b).result = .error e := by
  cases routine with
  | store width => cases own
  | load width => cases own
  | fetch => cases own
  | finish =>
    cases own
    rcases Run.result_bind_eq_error.mp refused with refused | ⟨_, _, done⟩
    · exact .inr ⟨closingRequest, terminate_eq_error_iff.mp refused⟩
    · cases done
  | setPaging scheme =>
    cases own
    cases refused
  | setPageAccess =>
    cases own
    cases refused
  | exchangeMprv =>
    cases own
    rcases Run.result_bind_eq_error.mp refused with read | ⟨status, _, refused⟩
    · cases read
    · rcases Run.result_bind_eq_error.mp refused with full | ⟨_, _, written⟩
      · exact .inl (append_eq_error_iff.mp full).2
      · cases written
  | goto target =>
    cases own
    rcases Run.result_bind_eq_error.mp refused with refused | ⟨_, _, done⟩
    · exact .inr ⟨_, refused⟩
    · cases done
  | setPmpConfig n =>
    cases own
    exact .inl (append_eq_error_iff (b := { b with hart := b.hart.writeCsr _ _ }).mp refused).2
  | setPmpAddress n =>
    cases own
    exact .inl (append_eq_error_iff (b := { b with hart := b.hart.writeCsr _ _ }).mp refused).2

end Bench

namespace Operation

/-- No plain operation on a settled bench is refused as nested. -/
theorem ne_nested_of_plain {o : Operation} {b : Bench} (plain : o.IsPlain) (settled : b.Settled)
    (fits : b.log.Fits) (level : Mode) : (o.perform b).result ≠ .error (.nestedTrap level) := by
  intro nested
  cases o with
  | install mode base vectoring =>
    have refused := Run.result_map_eq_error.mp nested
    cases mode <;> cases refused
  | raise trap => exact Bench.raise_ne_nested settled trap level (Run.result_map_eq_error.mp nested)
  | call request =>
    exact Bench.call_ne_nested settled request level (Run.result_map_eq_error.mp nested)
  | terminate =>
    have refused := Bench.terminate_eq_error_iff.mp (Run.result_map_eq_error.mp nested)
    exact Bench.call_ne_nested settled _ level refused
  | append w => cases (Bench.append_eq_error_iff.mp (Run.result_map_eq_error.mp nested)).2
  | runCase case routine =>
    have refused := Run.result_map_eq_error.mp nested
    cases own : Bench.routine? case routine with
    | none =>
      rw [own] at refused
      cases refused
    | some run =>
      rw [own] at refused
      rcases Bench.error_of_routine own refused with full | ⟨r, refused⟩
      · cases full
      · exact Bench.call_ne_nested settled r level refused
  | play script => exact plain script rfl
  | reload =>
    rw [perform_reload fits] at nested
    cases nested
  | restore =>
    rw [perform_restore fits] at nested
    cases nested
  | _ => cases nested

/-- No script on a settled bench stops at a nested trap. -/
theorem play_ne_nested {script : List Script.Line} {b : Bench} (settled : b.Settled)
    (fits : b.log.Fits) (level : Mode) :
    (Script.play script b).result ≠ .error (.nestedTrap level) := by
  intro nested
  induction script, b using Script.play_induction with
  | nil b => cases nested
  | ended line rest b v running =>
    rw [Script.play_of_verdict running] at nested
    cases nested
  | failed line rest b e running answer =>
    rw [Script.play_of_error running answer] at nested
    cases nested
    exact ne_nested_of_plain (isPlain_command line.command b) settled fits level
      (Script.error_of_play line.command b answer)
  | done line rest b outcome running answer ih =>
    have first := steps_own (isPlain_command line.command b) fits
    rw [Script.play_of_ok running answer] at nested
    rw [Script.state_play] at nested ih
    exact ih (first.settled settled) (first.logs.fits fits) (Run.map_eq_error.mp nested)

/-- No operation on a settled bench is refused as nested. -/
theorem ne_nested (o : Operation) {b : Bench} (settled : b.Settled) (fits : b.log.Fits) (level : Mode) :
    (o.perform b).result ≠ .error (.nestedTrap level) := by
  cases o with
  | play script =>
    intro nested
    exact play_ne_nested settled fits level (Run.result_map_eq_error.mp nested)
  | _ => exact ne_nested_of_plain (fun _ same => by cases same) settled fits level

/-- No answer in a session reports a nested trap. -/
theorem ne_nested_of_mem_replies {os : List Operation} {b : Bench} (settled : b.Settled)
    (fits : b.log.Fits) (level : Mode) {reply : Reply Bench Answer} (member : reply ∈ replies os b) :
    reply.result ≠ .error (.nestedTrap level) := by
  induction os generalizing b with
  | nil => exact absurd member List.not_mem_nil
  | cons o os ih =>
    have first := o.steps fits
    rcases List.mem_cons.mp member with rfl | member
    · exact o.ne_nested settled fits level
    · exact ih (first.settled settled) (first.logs.fits fits) member

end Operation

namespace TestTable

variable {σ : Type} {p : Procedure σ}

/-- No case of a walk with an honest probe ends with a nested trap. -/
theorem runCase_ne_nested (honest : p.Honest) {case : TestCase} {routine : Routine} {s : Bench × σ}
    (settled : s.1.Settled) (fits : s.1.log.Fits) (level : Mode) :
    (runCase p.probe case routine s).result ≠ .error (.nestedTrap level) := by
  intro nested
  cases own : Bench.routine? case routine with
  | some run =>
    rw [runCase_of_own own] at nested
    rcases Bench.error_of_routine own nested with full | ⟨r, refused⟩
    · cases full
    · exact Bench.call_ne_nested settled r level refused
  | none =>
    rw [runCase_of_probe own] at nested
    obtain ⟨reply, member, reported⟩ := List.mem_map.mp (honest case routine s level nested)
    exact Operation.ne_nested_of_mem_replies settled fits level member reported

/-- No walk with an honest probe ends with a nested trap. -/
theorem walkFrom_ne_nested (honest : p.Honest) {labels : Labels} {index : Nat}
    {cases : List TestCase} {s : Bench × σ} (settled : s.1.Settled) (fits : s.1.log.Fits)
    (level : Mode) :
    (walkFrom labels p.probe index cases s).result ≠ .error (.nestedTrap level) := by
  intro nested
  induction cases, s using walk_induction labels p.probe generalizing index with
  | ended cases s v running =>
    rw [walkFrom_of_verdict running] at nested
    cases nested
  | exhausted s running =>
    rw [walkFrom_nil running] at nested
    cases nested
  | unknown case rest s running known =>
    rw [walkFrom_of_unknown running known] at nested
    cases nested
  | failed case rest s routine e running known answer =>
    rw [walkFrom_of_error running known answer] at nested
    cases nested
    exact runCase_ne_nested honest settled fits level answer
  | done case rest s routine running known answer ih =>
    have steps := Operation.steps_history (caseCourse p case routine s) fits
    rw [session_caseCourse] at steps
    rw [walkFrom_of_ok running known answer] at nested
    exact ih (steps.settled settled) (steps.logs.fits fits) nested

end TestTable

/-- No task with an honest probe ends with a nested trap. -/
theorem Task.ne_nested {t : Task} (honest : t.Honest) {b : Bench} (settled : b.Settled)
    (fits : b.log.Fits) (level : Mode) : (t.perform b).result ≠ .error (.nestedTrap level) := by
  intro nested
  cases t with
  | single operation =>
    exact operation.ne_nested settled fits level (Run.result_map_eq_error.mp nested)
  | walk labels procedure state cases =>
    exact TestTable.walkFrom_ne_nested honest settled fits level (Run.map_eq_error.mp nested)

namespace Bench

/-! ## Runs that have ended -/

/-- Every trap is refused because the run has ended. A refused call has put its request into the
argument registers, and nothing else has changed. -/
structure RefusesTraps (b : Bench) : Prop where
  raise : ∀ t, Bench.raise t b = ⟨.error .halted, b, []⟩
  call : ∀ r, ∃ registers,
    Bench.call r b = ⟨.error .halted, { b with hart := { b.hart with registers } }, []⟩
  terminate : ∃ registers,
    Bench.terminate b = ⟨.error .halted, { b with hart := { b.hart with registers } }, []⟩

theorem refusesTraps_of_halted {b : Bench} {v : Verdict} (halted : b.phase = .halted v) :
    b.RefusesTraps := by
  have refuses (t : Trap) {c : Bench} (ended : c.phase = .halted v) :
      Bench.raise t c = ⟨.error .halted, c, []⟩ := by
    apply raise_of_refusal
    unfold admission
    rw [ended]
  have called (r : CallRequest) : Bench.call r b = ⟨.error .halted, b.setRequest r, []⟩ := by
    rw [call_apply]
    exact refuses _ halted
  constructor
  · intro t
    exact refuses t halted
  · intro r
    exact ⟨(b.setRequest r).hart.registers, called r⟩
  · have refused : (Bench.call closingRequest b).result = .error .halted := by
      rw [called]
    refine ⟨(b.setRequest closingRequest).hart.registers, ?_⟩
    rw [terminate_of_error refused, called]
    rfl

/-- After any tasks, and any operations since, the bench is idle or halted; so no further task ends
with a nested trap. Once the run has ended it keeps its verdict and refuses every trap, whatever else
is asked of the bench. -/
theorem phase_of_session (settings : Settings) (ts : List Task) (os : List Operation) :
    let b := Operation.session os (Task.session ts (start settings))
    b.Settled ∧
      (∀ t : Task, Operation.session (t.course b) b = (t.perform b).state ∧
        (t.Honest → ∀ level, (t.perform b).result ≠ .error (.nestedTrap level))) ∧
      ∀ v, b.phase = .halted v → ∀ (more : List Task) (later : List Operation),
        let c := Operation.session later (Task.session more b)
        c.phase = .halted v ∧ c.RefusesTraps := by
  intro b
  have steps := Task.steps_session ts os (fits_start settings)
  have settled : b.Settled := steps.settled (settled_start settings)
  have fits : b.log.Fits := steps.logs.fits (fits_start settings)
  refine ⟨settled, ?_, ?_⟩
  · intro t
    exact ⟨t.session_course b, fun honest => Task.ne_nested honest settled fits⟩
  · intro v halted more later c
    have ended : c.phase = .halted v := (Task.steps_session more later fits).halted halted
    exact ⟨ended, refusesTraps_of_halted ended⟩

end Bench

end HartTraps
