import HartTraps.Script.Play
import HartTraps.Snapshot.File
import HartTraps.TestTable.Walk

/-!
# Operations as values

What a host can do to a bench, as one type, so that a whole session with a bench is a list. An
operation that is refused does not end the session.
-/

namespace HartTraps

/-- One operation on a bench. -/
inductive Operation where
  | install (mode : Mode) (base : Word) (vectoring : Vectoring)
  | delegate (exceptions interrupts : Word)
  | setMode (mode : Mode)
  | setPc (pc : Word)
  | setRegister (r : Register) (w : Word)
  | setCsr (a : CsrAddress) (w : Word)
  /-- Puts another hart in place; assignments of every kind to the hart are of this form. -/
  | setHart (hart : Hart)
  | raise (trap : Trap)
  | call (request : CallRequest)
  | terminate
  | append (w : Word)
  | rebase (cursor : Word)
  /-- Carries out the routine of a test case; one that is for a probe does nothing. -/
  | runCase (case : TestCase) (routine : Routine)
  | play (script : List Script.Line)
  /-- Saves the bench and loads it again. -/
  | reload
  /-- Takes a snapshot of the bench and restores it. -/
  | restore

namespace Operation

/-- What an operation answers. -/
inductive Answer where
  | done
  | outcome (o : Outcome)
  | reports (rs : List Script.Report)
  deriving DecidableEq

/-- Carries out an operation. -/
def perform : Operation → Run Bench Answer
  | install mode base vectoring => (fun _ => .done) <$> Bench.install mode base vectoring
  | delegate exceptions interrupts => (fun _ => .done) <$> Run.modify (·.delegate exceptions interrupts)
  | setMode mode => (fun _ => .done) <$> Run.modify (·.setMode mode)
  | setPc pc => (fun _ => .done) <$> Run.modify (·.setPc pc)
  | setRegister r w => (fun _ => .done) <$> Run.modify (·.setRegister r w)
  | setCsr a w => (fun _ => .done) <$> Bench.setCsr a w
  | setHart hart => (fun _ => .done) <$> Run.modify fun b => { b with hart }
  | raise trap => .outcome <$> Bench.raise trap
  | call request => .outcome <$> Bench.call request
  | terminate => .outcome <$> Bench.terminate
  | append w => (fun _ => .done) <$> Bench.append w
  | rebase cursor => (fun _ => .done) <$> Run.modify (·.rebase cursor)
  | runCase case routine =>
    (fun _ => .done) <$> (Bench.routine? case routine).getD (pure ())
  | play script => .reports <$> Script.play script
  | reload => do
    let b ← Run.get
    (fun _ => .done) <$> Run.become (Bench.load b.save)
  | restore => do
    let b ← Run.get
    (fun _ => .done) <$> Run.become b.snapshot.restore

/-- The bench after a session. -/
def session (operations : List Operation) (b : Bench) : Bench :=
  operations.foldl (fun b operation => (operation.perform b).state) b

/-- What the operations of a session answer, one after the other. -/
def replies (operations : List Operation) (b : Bench) : List (Reply Bench Answer) :=
  Run.each (operations.map perform) b

@[simp] theorem session_nil (b : Bench) : session [] b = b := rfl

@[simp] theorem session_cons (o : Operation) (os : List Operation) (b : Bench) :
    session (o :: os) b = session os (o.perform b).state := rfl

theorem session_append (os more : List Operation) (b : Bench) :
    session (os ++ more) b = session more (session os b) :=
  List.foldl_append

end Operation

end HartTraps
