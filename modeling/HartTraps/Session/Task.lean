import HartTraps.Session

/-!
# Tasks of a host

A host gives a bench single operations and whole test tables. A script and a table whose probe
follows a procedure come down to operations too: the course of a task lists them, as far as the task
gets.
-/

namespace HartTraps

/-- What a probe does that touches the bench through operations only. In one call it may choose them
by the case, by the bench and by a state of its own. -/
structure Procedure (σ : Type) where
  operations : TestCase → Routine → Bench × σ → List Operation
  next : TestCase → Routine → Bench × σ → σ
  result : TestCase → Routine → Bench × σ → Except BenchError Unit

namespace Procedure

variable {σ : Type}

/-- The probe that follows a procedure. -/
def probe (p : Procedure σ) : Probe σ := fun case routine s =>
  let operations := p.operations case routine s
  { result := p.result case routine s
    state := (Operation.session operations s.1, p.next case routine s)
    notes := (Operation.replies operations s.1).flatMap (·.notes) }

/-- An honest probe reports a nested trap only if one of its operations did. -/
def Honest (p : Procedure σ) : Prop :=
  ∀ case routine s level, p.result case routine s = .error (.nestedTrap level) →
    .error (.nestedTrap level) ∈
      (Operation.replies (p.operations case routine s) s.1).map (·.result)

end Procedure

/-- What a host asks of a bench. -/
inductive Task : Type 1 where
  | single (operation : Operation)
  /-- Walks a test table with a probe that starts in the given state. -/
  | walk {σ : Type} (labels : Labels) (procedure : Procedure σ) (state : σ) (cases : List TestCase)

namespace Script

/-- The operation of a command when it stands before a bench. -/
def Command.operation (b : Bench) : Command → Operation
  | install level base vectoring => .install level base vectoring
  | delegate exceptions interrupts => .delegate exceptions interrupts
  | mode m => .setMode m
  | pc w => .setPc w
  | register r w => .setRegister r w
  | trap cause address instruction =>
    .raise (trapAt b.hart.mode b.hart.pc cause address instruction)
  | call op page pageType => .call { op, page, pageType }
  | log w => .append w
  | terminate => .terminate

/-- The operations of a script up to the end of the run or the first error. -/
def course : List Line → Bench → List Operation
  | [], _ => []
  | line :: rest, b =>
    match b.verdict? with
    | some _ => []
    | none =>
      let operation := line.command.operation b
      let reply := operation.perform b
      match reply.result with
      | .ok _ => operation :: course rest reply.state
      | .error _ => [operation]

end Script

namespace Operation

/-- The operations that an operation comes down to: a script is taken apart. -/
def course : Operation → Bench → List Operation
  | play script, b => Script.course script b
  | operation, _ => [operation]

/-- The operations that a session comes down to. -/
def fullCourse : List Operation → Bench → List Operation
  | [], _ => []
  | operation :: rest, b => operation.course b ++ fullCourse rest (operation.perform b).state

end Operation

namespace TestTable

variable {σ : Type}

/-- The operations of one case: the driver's own, or those of the probe. -/
def caseCourse (p : Procedure σ) (case : TestCase) (routine : Routine) (s : Bench × σ) :
    List Operation :=
  match Bench.routine? case routine with
  | some _ => [.runCase case routine]
  | none => Operation.fullCourse (p.operations case routine s) s.1

/-- The operations of a walk up to the end of the run or the first error. -/
def course (labels : Labels) (p : Procedure σ) : List TestCase → Bench × σ → List Operation
  | [], _ => []
  | case :: cases, s =>
    match s.1.verdict?, labels.find? case.tag with
    | none, some routine =>
      let reply := runCase p.probe case routine s
      caseCourse p case routine s ++
        match reply.result with
        | .ok _ => course labels p cases reply.state
        | .error _ => []
    | _, _ => []

end TestTable

namespace Task

/-- What a task answers. -/
inductive Answer where
  | operation (a : Operation.Answer)
  | verdict (v : Verdict)

/-- Carries out a task. -/
def perform : Task → Run Bench Answer
  | single operation => .operation <$> operation.perform
  | walk labels procedure state cases => fun b =>
    let r := TestTable.walk labels procedure.probe cases (b, state)
    ⟨r.result.map .verdict, r.state.1, r.notes⟩

/-- The bench after some tasks; a task that ends with an error does not keep the host from the next. -/
def session (tasks : List Task) (b : Bench) : Bench :=
  tasks.foldl (fun b task => (task.perform b).state) b

/-- The operations that a task comes down to. -/
def course : Task → Bench → List Operation
  | single operation, b => operation.course b
  | walk labels procedure state cases, b => TestTable.course labels procedure cases (b, state)

/-- The operations that several tasks come down to. -/
def fullCourse : List Task → Bench → List Operation
  | [], _ => []
  | task :: rest, b => task.course b ++ fullCourse rest (task.perform b).state

/-- What a probe does that carries out tasks, such as walks of other tables: the operations that they
come down to. -/
def procedure {σ : Type} (tasks : TestCase → Routine → Bench × σ → List Task)
    (next : TestCase → Routine → Bench × σ → σ)
    (result : TestCase → Routine → Bench × σ → Except BenchError Unit) : Procedure σ :=
  { operations := fun case routine s => fullCourse (tasks case routine s) s.1, next, result }

/-- A task whose probe, if it has one, is honest. -/
def Honest : Task → Prop
  | single _ => True
  | walk _ procedure _ _ => procedure.Honest

@[simp] theorem session_nil (b : Bench) : session [] b = b := rfl

@[simp] theorem session_cons (t : Task) (ts : List Task) (b : Bench) :
    session (t :: ts) b = session ts (t.perform b).state := rfl

theorem session_append (ts more : List Task) (b : Bench) :
    session (ts ++ more) b = session more (session ts b) :=
  List.foldl_append

end Task

end HartTraps
