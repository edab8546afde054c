import HartTraps.Proofs.Trap.Admission
import HartTraps.Proofs.Trap.Settle
import HartTraps.Session.History

/-!
# Steps of a bench

Whatever is asked of a bench, it changes in six ways: the hart is assigned, a handler is installed, an
admitted trap is served to its end, an idle run is closed, a word is appended, or the virtual view of
the log is moved. `Bench.Steps` chains such steps and collects their events. An invariant of every
step is an invariant of every session.
-/

namespace HartTraps.Bench

/-- One change of a bench, with the events that it stands for. -/
inductive Step : Bench → List Event → Bench → Prop where
  | hart (b : Bench) (hart : Hart) : Step b [] { b with hart }
  | install (b : Bench) (level : TrapLevel) (base : Word) (vectoring : Vectoring) :
      Step b [.installed level] (b.withHandler level base vectoring)
  | trap {b : Bench} {t : Trap} {a : Admission} (admits : b.Admits t a) :
      Step b [.trapped a.level t] ({ b with log := a.log }.take a.level a.frame t).bench
  | close {b : Bench} (idle : b.phase = .idle) : Step b [] b.close
  | append {b : Bench} {w : Word} {log : Log} (room : b.log.append? w = some log) :
      Step b [.appended w] { b with log }
  | rebase (b : Bench) (cursor : Word) : Step b [] (b.rebase cursor)

/-- Steps one after the other, with all their events. -/
inductive Steps : Bench → List Event → Bench → Prop where
  | refl (b : Bench) : Steps b [] b
  | step {b c d : Bench} {es fs : List Event} (first : Step b es c) (rest : Steps c fs d) :
      Steps b (es ++ fs) d

namespace Steps

variable {b c d : Bench} {es fs : List Event}

theorem single (step : Step b es c) : Steps b es c := by
  have steps := Steps.step step (.refl c)
  rw [List.append_nil] at steps
  exact steps

theorem trans (first : Steps b es c) (rest : Steps c fs d) : Steps b (es ++ fs) d := by
  induction first with
  | refl => exact rest
  | step one _ ih =>
    rw [List.append_assoc]
    exact .step one (ih rest)

/-- A last step without events. -/
theorem silent (steps : Steps b es c) (last : Step c [] d) : Steps b es d := by
  have all := steps.trans (.single last)
  rw [List.append_nil] at all
  exact all

/-- What every step keeps, a session keeps. -/
theorem invariant {P : Bench → Prop} (kept : ∀ {b es c}, Step b es c → P b → P c)
    (steps : Steps b es c) (holds : P b) : P c := by
  induction steps with
  | refl => exact holds
  | step one _ ih => exact ih (kept one holds)

end Steps

/-! ## The log -/

/-- The settings and the region stay as they are, and the words of the events are appended as far as
there is room. -/
structure Logs (b : Bench) (es : List Event) (c : Bench) : Prop where
  settings : c.settings = b.settings
  capacity : c.log.capacity = b.log.capacity
  physicalBase : c.log.physicalBase = b.log.physicalBase
  words : c.log.words = b.log.words ++ es.filterMap (·.word? b.settings.recordCauses)
  fits : b.log.Fits → c.log.Fits

namespace Logs

variable {b c d : Bench} {es fs : List Event}

/-- Nothing is appended if the words and the region are the same. -/
theorem of_same (settings : c.settings = b.settings)
    (log : ∃ base, c.log = { b.log with virtualBase := base })
    (silent : es.filterMap (·.word? b.settings.recordCauses) = []) : Logs b es c := by
  obtain ⟨base, log⟩ := log
  refine ⟨settings, ?_, ?_, ?_, ?_⟩
  · rw [log]
  · rw [log]
  · rw [log, silent, List.append_nil]
  · intro fits
    rw [log]
    exact fits

/-- One word is appended while there is room. -/
theorem of_append? {w : Word} {log : Log} (room : b.log.append? w = some log)
    (word : es.filterMap (·.word? b.settings.recordCauses) = [w]) : Logs b es { b with log } := by
  have fits : log.Fits := Log.Fits.append? room
  obtain ⟨-, rfl⟩ := Log.append?_eq_some room
  refine ⟨rfl, rfl, rfl, ?_, fun _ => fits⟩
  rw [word]

theorem trans (first : Logs b es c) (rest : Logs c fs d) : Logs b (es ++ fs) d := by
  refine ⟨rest.settings.trans first.settings, rest.capacity.trans first.capacity,
    rest.physicalBase.trans first.physicalBase, ?_, fun fits => rest.fits (first.fits fits)⟩
  rw [rest.words, first.words, first.settings, List.filterMap_append, List.append_assoc]

end Logs

theorem words_trapped (record : Bool) (level : TrapLevel) (t : Trap) :
    [Event.trapped level t].filterMap (·.word? record) = if record then [t.cause.raw] else [] := by
  cases record <;> rfl

/-- The log that an admission hands to the handler holds the cause if causes are recorded. -/
theorem Admits.logs {b : Bench} {t : Trap} {a : Admission} (admits : b.Admits t a) :
    Logs b [.trapped a.level t] { b with log := a.log } := by
  have words := words_trapped b.settings.recordCauses a.level t
  rcases logged?_eq_some admits.logged with ⟨same, off⟩ | ⟨appended, on⟩
  · rw [off, if_neg Bool.false_ne_true] at words
    exact .of_same rfl ⟨b.log.virtualBase, same⟩ (off ▸ words)
  · rw [on, if_pos rfl] at words
    exact .of_append? appended (on ▸ words)

theorem Step.logs {b c : Bench} {es : List Event} (step : Step b es c) : Logs b es c := by
  cases step with
  | hart hart => exact .of_same rfl ⟨b.log.virtualBase, rfl⟩ rfl
  | install level base vectoring =>
    apply Logs.of_same
    · exact settings_setFrame b level {}
    · exact ⟨b.log.virtualBase, log_setFrame b level {}⟩
    · rfl
  | @trap t a admits =>
    have served := (take_settles { b with log := a.log } a.level a.frame t).keeps
    exact admits.logs.trans (.of_same served.settings served.log rfl)
  | close idle => exact .of_same rfl ⟨b.log.virtualBase, rfl⟩ rfl
  | append room => exact .of_append? room rfl
  | rebase cursor => exact .of_same rfl ⟨_, rfl⟩ rfl

theorem Steps.logs {b c : Bench} {es : List Event} (steps : Steps b es c) : Logs b es c := by
  induction steps with
  | refl b => exact .of_same rfl ⟨b.log.virtualBase, rfl⟩ rfl
  | step one _ ih => exact one.logs.trans ih

/-! ## The phase -/

/-- Between two operations a bench runs the interrupted program, or its run has ended. -/
def Settled (b : Bench) : Prop :=
  b.phase = .idle ∨ ∃ v, b.phase = .halted v

theorem Step.settled {b c : Bench} {es : List Event} (step : Step b es c) (settled : b.Settled) :
    c.Settled := by
  cases step with
  | hart hart => exact settled
  | install level base vectoring =>
    unfold Settled withHandler
    rw [phase_setFrame]
    exact settled
  | @trap t a admits =>
    have phase := (take_settles { b with log := a.log } a.level a.frame t).phase
    unfold Settled
    rw [phase]
    cases ({ b with log := a.log }.take a.level a.frame t).outcome with
    | resumed pc mode => exact .inl rfl
    | halted v => exact .inr ⟨v, rfl⟩
  | close idle => exact .inr ⟨.pass, rfl⟩
  | append room => exact settled
  | rebase cursor => exact settled

/-- A run that has ended keeps its verdict. -/
theorem Step.halted {b c : Bench} {es : List Event} (step : Step b es c) {v : Verdict}
    (halted : b.phase = .halted v) : c.phase = .halted v := by
  cases step with
  | hart hart => exact halted
  | install level base vectoring =>
    unfold withHandler
    rw [phase_setFrame]
    exact halted
  | trap admits => cases halted.symm.trans admits.idle
  | close idle => cases halted.symm.trans idle
  | append room => exact halted
  | rebase cursor => exact halted

theorem Steps.settled {b c : Bench} {es : List Event} (steps : Steps b es c) (settled : b.Settled) :
    c.Settled :=
  steps.invariant Step.settled settled

theorem Steps.halted {b c : Bench} {es : List Event} (steps : Steps b es c) {v : Verdict}
    (halted : b.phase = .halted v) : c.phase = .halted v :=
  steps.invariant (P := fun b => b.phase = .halted v) (fun step => step.halted) halted

end HartTraps.Bench
