import HartTraps.Session.Task

/-!
# The course of a task

Scripts and test tables do to a bench what the operations of their course do, one after the other. So
what holds after every session of operations holds after every task, and at each operation of it.
-/

namespace HartTraps

namespace Script

/-- A command does the same as its operation; only the answers are worded differently. -/
theorem play_operation (c : Command) (b : Bench) :
    ((fun _ => ()) <$> c.play) b = ((fun _ => ()) <$> (c.operation b).perform) b := by
  cases c with
  | trap cause address instruction =>
    simp only [Command.play, Command.operation, Operation.perform, bind_pure_comp, map_bind,
      Functor.map_map]
    rw [Run.bind_apply_of_ok (a := b) rfl]
    rfl
  | _ => simp only [Command.play, Command.operation, Operation.perform, bind_pure_comp,
      Functor.map_map]

variable (c : Command) (b : Bench)

theorem state_play : (c.play b).state = ((c.operation b).perform b).state :=
  congrArg Reply.state (play_operation c b)

theorem result_play_map : (c.play b).result.map (fun _ => ()) =
    ((c.operation b).perform b).result.map fun _ => () :=
  congrArg Reply.result (play_operation c b)

theorem error_of_play {e : BenchError} (refused : (c.play b).result = .error e) :
    ((c.operation b).perform b).result = .error e := by
  have same := result_play_map c b
  rw [refused] at same
  cases answer : ((c.operation b).perform b).result with
  | error f =>
    rw [answer] at same
    cases same
    rfl
  | ok a =>
    rw [answer] at same
    cases same

theorem ok_of_play {outcome : Option Outcome} (done : (c.play b).result = .ok outcome) :
    ∃ answer, ((c.operation b).perform b).result = .ok answer := by
  have same := result_play_map c b
  rw [done] at same
  cases answer : ((c.operation b).perform b).result with
  | error f =>
    rw [answer] at same
    cases same
  | ok a => exact ⟨a, rfl⟩

/-- The operations of a script do to a bench what the script does. -/
theorem session_course (script : List Line) (b : Bench) :
    Operation.session (course script b) b = (play script b).state := by
  induction script, b using play_induction with
  | nil b => rfl
  | ended line rest b v running =>
    unfold course
    rw [play_of_verdict running, running, Operation.session_nil]
  | failed line rest b e running answer =>
    have refused := error_of_play line.command b answer
    unfold course
    simp only [running, refused, Operation.session_cons, Operation.session_nil]
    rw [play_of_error running answer, state_play]
  | done line rest b outcome running answer ih =>
    obtain ⟨_, done⟩ := ok_of_play line.command b answer
    unfold course
    simp only [running, done, Operation.session_cons]
    rw [play_of_ok running answer, ← state_play, ih]

end Script

namespace Operation

theorem session_course (o : Operation) (b : Bench) : session (o.course b) b = (o.perform b).state := by
  cases o with
  | play script => exact Script.session_course script b
  | _ => rfl

theorem session_fullCourse (os : List Operation) (b : Bench) :
    session (fullCourse os b) b = session os b := by
  induction os generalizing b with
  | nil => rfl
  | cons o os ih =>
    unfold fullCourse
    rw [session_append, session_course, ih, session_cons]

end Operation

namespace TestTable

variable {σ : Type} (p : Procedure σ)

theorem session_caseCourse (case : TestCase) (routine : Routine) (s : Bench × σ) :
    Operation.session (caseCourse p case routine s) s.1 =
      (runCase p.probe case routine s).state.1 := by
  unfold caseCourse
  cases own : Bench.routine? case routine with
  | some run =>
    rw [runCase_of_own own, Operation.session_cons, Operation.session_nil, Operation.perform, own]
    rfl
  | none =>
    rw [runCase_of_probe own]
    exact Operation.session_fullCourse _ s.1

/-- The operations of a walk do to a bench what the walk does. -/
theorem session_course (labels : Labels) (index : Nat) (cases : List TestCase) (s : Bench × σ) :
    Operation.session (course labels p cases s) s.1 =
      (walkFrom labels p.probe index cases s).state.1 := by
  induction cases, s using walk_induction labels p.probe generalizing index with
  | ended cases s v running =>
    rw [walkFrom_of_verdict running]
    cases cases with
    | nil => rw [course, Operation.session_nil]
    | cons case rest =>
      unfold course
      rw [running, Operation.session_nil]
  | exhausted s running => rw [walkFrom_nil running, course, Operation.session_nil]
  | unknown case rest s running known =>
    unfold course
    rw [walkFrom_of_unknown running known, running, known, Operation.session_nil]
  | failed case rest s routine e running known answer =>
    unfold course
    simp only [running, known, answer]
    rw [Operation.session_append, session_caseCourse, walkFrom_of_error running known answer,
      Operation.session_nil]
  | done case rest s routine running known answer ih =>
    unfold course
    simp only [running, known, answer]
    rw [Operation.session_append, session_caseCourse, walkFrom_of_ok running known answer,
      ih (index + 1)]

end TestTable

namespace Task

theorem session_course (t : Task) (b : Bench) :
    Operation.session (t.course b) b = (t.perform b).state := by
  cases t with
  | single operation => exact Operation.session_course operation b
  | walk labels procedure state cases =>
    exact TestTable.session_course procedure labels 0 cases (b, state)

/-- The operations of several tasks do to a bench what the tasks do. -/
theorem session_fullCourse (ts : List Task) (b : Bench) :
    Operation.session (fullCourse ts b) b = session ts b := by
  induction ts generalizing b with
  | nil => rfl
  | cons t ts ih =>
    unfold fullCourse
    rw [Operation.session_append, session_course, ih, session_cons]

/-- So a probe may carry out any tasks. -/
theorem state_procedure_probe {σ : Type} (tasks : TestCase → Routine → Bench × σ → List Task)
    (next : TestCase → Routine → Bench × σ → σ)
    (result : TestCase → Routine → Bench × σ → Except BenchError Unit) (case : TestCase)
    (routine : Routine) (s : Bench × σ) :
    ((procedure tasks next result).probe case routine s).state =
      (session (tasks case routine s) s.1, next case routine s) :=
  congrArg (·, next case routine s) (session_fullCourse (tasks case routine s) s.1)

end Task

end HartTraps
