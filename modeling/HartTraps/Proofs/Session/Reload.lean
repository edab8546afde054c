import HartTraps.Proofs.Session.Operations

/-!
# Saving and loading within a session

Every bench that a session reaches has a log that fits, so its file loads the same bench, in whatever
order the control registers stand in the file. A host that goes on with the loaded bench gets the same
answers.
-/

namespace HartTraps.Bench

/-- After any tasks, and any operations since, the file of the bench loads the same bench, with the
control registers written in any order; what is done to it later answers the same. -/
theorem load_of_session (settings : Settings) (ts : List Task) (os : List Operation)
    (entries : List (BitVec 16 × Word))
    (perm : entries.Perm
      (Operation.session os (Task.session ts (start settings))).hart.csrs.rawEntries) :
    let b := Operation.session os (Task.session ts (start settings))
    ∃ loaded, load (b.snapshot.withEntries entries).file = .ok loaded ∧ loaded = b ∧
      ∀ more : List Task,
        Run.each (more.map Task.perform) loaded = Run.each (more.map Task.perform) b := by
  intro b
  have fits : b.log.Fits := (Task.steps_session ts os (fits_start settings)).logs.fits
    (fits_start settings)
  have answer : load (b.snapshot.withEntries entries).file = .ok b := load_of_perm fits perm
  exact ⟨b, answer, rfl, fun _ => rfl⟩

/-- A host that installs a handler and delegates calls and software interrupts. -/
def delegating : List Operation :=
  [.install .machine 0x80000100 .vectored, .delegate 0x100 0x2]

/-- Its control registers are read back from the highest address to the lowest. -/
theorem load_of_session_delegating :
    let b := Operation.session delegating (Task.session [] (start {}))
    b.hart.csrs.rawEntries = [(0x302, 0x100), (0x303, 0x2), (0x305, 0x80000101)] ∧
      ∃ loaded, load (b.snapshot.withEntries
        [(0x305, 0x80000101), (0x303, 0x2), (0x302, 0x100)]).file = .ok loaded ∧ loaded = b := by
  refine ⟨by decide, ?_⟩
  obtain ⟨loaded, answer, same, _⟩ := load_of_session {} [] delegating
    [(0x305, 0x80000101), (0x303, 0x2), (0x302, 0x100)] (by decide)
  exact ⟨loaded, answer, same⟩

end HartTraps.Bench
