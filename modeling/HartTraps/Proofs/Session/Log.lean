import HartTraps.Proofs.Session.Operations

/-!
# The log as the record of a session

The log holds what its history says and nothing else: appended words, and the causes of accepted traps
if the settings ask for them. It only grows, it stays in its region, and both of its cursors keep their
distance from their bases.
-/

namespace HartTraps

namespace Log

/-- Both cursors are as far from their bases as the words are long. -/
theorem cursors_sub_bases (log : Log) :
    log.physicalCursor - log.physicalBase = BitVec.ofNat 64 (8 * log.words.length) ∧
      log.virtualCursor - log.virtualBase = BitVec.ofNat 64 (8 * log.words.length) := by
  constructor
  · unfold physicalCursor
    rw [BitVec.add_comm, BitVec.add_sub_cancel, offset]
  · unfold virtualCursor
    rw [BitVec.add_comm, BitVec.add_sub_cancel, offset]

end Log

namespace Bench

/-- Steps append to the log and take nothing away. -/
theorem Steps.words_kept {b c : Bench} {es : List Event} (steps : Steps b es c) :
    b.log.words <+: c.log.words := by
  rw [steps.logs.words]
  exact List.prefix_append _ _

/-- After any tasks, and any operations since, the log is the record of the history so far. -/
theorem log_of_session (settings : Settings) (ts : List Task) (os : List Operation) :
    let run := Task.fullCourse ts (start settings) ++ os
    let b := Operation.session os (Task.session ts (start settings))
    b = Operation.session run (start settings) ∧
      b.log.words =
        (Operation.history run (start settings)).filterMap (·.word? settings.recordCauses) ∧
      b.log.capacity = settings.logCapacity ∧
      b.log.words.length ≤ settings.logCapacity.toNat ∧
      b.log.physicalBase = settings.physicalLogBase ∧
      (∀ later, b.log.words <+: (Operation.session later b).log.words) ∧
      b.log.physicalCursor - b.log.physicalBase = BitVec.ofNat 64 (8 * b.log.words.length) ∧
      b.log.virtualCursor - b.log.virtualBase = BitVec.ofNat 64 (8 * b.log.words.length) := by
  intro run b
  have whole : b = Operation.session run (start settings) := Task.session_eq ts os (start settings)
  have logs : Logs (start settings) (Operation.history run (start settings)) b :=
    (Task.steps_session ts os (fits_start settings)).logs
  have fits : b.log.Fits := logs.fits (fits_start settings)
  have capacity : b.log.capacity = settings.logCapacity := logs.capacity
  refine ⟨whole, logs.words, capacity, ?_, logs.physicalBase, ?_, b.log.cursors_sub_bases⟩
  · rw [← capacity]
    exact fits
  · intro later
    exact (Operation.steps_history later fits).words_kept

/-- An illegal instruction before and after a handler is installed, and an appended word. -/
def twoTraps : List Operation :=
  [.raise ⟨⟨2⟩, .machine, 0, none, none⟩, .install .machine 0x100 .direct,
    .raise ⟨⟨2⟩, .machine, 0, none, none⟩, .append 9]

/-- A bench that records causes and has been given one word by a task. -/
def recording : Bench :=
  Task.session [.single (.append 7)] (start { recordCauses := true })

/-- The refused trap leaves no word. The accepted one leaves its cause between the words that the host appends. -/
theorem log_of_session_twoTraps :
    (Operation.replies twoTraps recording).map (·.result) =
        [.error (.noHandler .machine), .ok .done, .ok (.outcome (.resumed 4 .machine)), .ok .done] ∧
      recording.log.words = [7] ∧
      (Operation.session twoTraps recording).log.words = [7, 2, 9] ∧
      recording.log.words <+: (Operation.session twoTraps recording).log.words := by
  obtain ⟨-, before, -, -, -, grown, -⟩ :=
    log_of_session { recordCauses := true } [.single (.append 7)] []
  obtain ⟨-, after, -⟩ := log_of_session { recordCauses := true } [.single (.append 7)] twoTraps
  exact ⟨by rfl, before.trans (by rfl), after.trans (by rfl), grown twoTraps⟩

end Bench

end HartTraps
