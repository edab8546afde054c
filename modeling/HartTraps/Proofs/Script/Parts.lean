import HartTraps.Proofs.Session.Operations

/-!
# Playing a script in parts

A script may be cut at any line: to play it whole is to play its first part and then the rest, with the
reports of both. It does not matter whether the bench was saved and loaded in between. If the first part
has ended the run, nothing of the rest is played.
-/

namespace HartTraps

namespace Script

variable {first : List Line} {b : Bench}

/-- Nothing is played once the run has ended. -/
theorem play_of_ended {v : Verdict} (ended : b.verdict? = some v) (lines : List Line) :
    (play lines b).state = b ∧ (play lines b).result = .ok [] := by
  cases lines with
  | nil => exact ⟨rfl, rfl⟩
  | cons line lines =>
    rw [play_of_verdict ended]
    exact ⟨rfl, rfl⟩

/-- The rest is played where the first part has left the bench, and its reports come after. -/
theorem play_append_of_ok {reports : List Report} (done : (play first b).result = .ok reports)
    (rest : List Line) :
    (play (first ++ rest) b).state = (play rest (play first b).state).state ∧
      (play (first ++ rest) b).result =
        (play rest (play first b).state).result.map (reports ++ ·) := by
  induction first, b using play_induction generalizing reports with
  | nil b =>
    cases done
    refine ⟨rfl, ?_⟩
    show (play rest b).result = (play rest b).result.map ([] ++ ·)
    cases (play rest b).result <;> rfl
  | ended line lines b v running =>
    rw [List.cons_append]
    have nothing : (play (line :: lines) b).state = b := (play_of_ended running _).1
    rw [play_of_verdict running] at done
    cases done
    rw [nothing, play_of_verdict running]
    obtain ⟨state, result⟩ := play_of_ended running rest
    rw [state, result]
    exact ⟨rfl, rfl⟩
  | failed line lines b e running answer =>
    rw [play_of_error running answer] at done
    cases done
  | done line lines b outcome running answer ih =>
    rw [List.cons_append]
    rw [play_of_ok running answer] at done ⊢
    rw [play_of_ok running answer]
    cases played : (play lines (line.command.play b).state).result with
    | error e =>
      rw [played] at done
      cases done
    | ok later =>
      rw [played] at done
      cases done
      obtain ⟨state, result⟩ := ih played
      refine ⟨state, ?_⟩
      dsimp only
      rw [result]
      cases (play rest (play lines (line.command.play b).state).state).result with
      | error e => rfl
      | ok more => simp [Except.map]

/-- A script may be cut after any tasks, and any operations since: the bench that its first part leaves
is saved, with the control registers in any order, and loaded again, and the rest is played on what was
loaded. If the first part has ended the run, the rest neither does nor reports anything. -/
theorem play_of_reload (settings : Settings) (ts : List Task) (os : List Operation)
    (first rest : List Line) {reports : List Report}
    (done : (play first (Operation.session os (Task.session ts (.start settings)))).result = .ok reports)
    (entries : List (BitVec 16 × Word))
    (perm : entries.Perm
      (play first (Operation.session os (Task.session ts (.start settings)))).state.hart.csrs.rawEntries) :
    let b := Operation.session os (Task.session ts (.start settings))
    let cut := (play first b).state
    ∃ loaded, Bench.load (cut.snapshot.withEntries entries).file = .ok loaded ∧
      (play (first ++ rest) b).state = (play rest loaded).state ∧
      (play (first ++ rest) b).result = (play rest loaded).result.map (reports ++ ·) ∧
      ∀ v, cut.phase = .halted v →
        (play (first ++ rest) b).state = cut ∧ (play (first ++ rest) b).result = .ok reports ∧
          (play rest loaded).state = loaded ∧ (play rest loaded).result = .ok [] := by
  intro b cut
  have fits : b.log.Fits :=
    (Task.steps_session ts os (Bench.fits_start settings)).logs.fits (Bench.fits_start settings)
  have cutFits : cut.log.Fits := ((Operation.play first).steps fits).logs.fits fits
  obtain ⟨state, result⟩ := play_append_of_ok done rest
  refine ⟨cut, Bench.load_of_perm cutFits perm, state, result, ?_⟩
  intro v halted
  obtain ⟨still, silent⟩ := play_of_ended (Bench.verdict?_eq_some_iff.mpr halted) rest
  rw [state, result]
  refine ⟨still, ?_, still, silent⟩
  rw [silent]
  show Except.ok (reports ++ []) = .ok reports
  rw [List.append_nil]

/-- A host that has its calls served by Supervisor. -/
def supervised : List Operation :=
  [.install .supervisor 0x80000300 .direct, .delegate 0x100 0, .setMode .user]

/-- A call from User that moves to another page. -/
def moving : List Line :=
  [⟨1, .call 3 0x40000000 1⟩]

/-- A word and a failure, with a command after them. -/
def failing : List Line :=
  [⟨2, .log 7⟩, ⟨3, .mode .user⟩, ⟨4, .call 1 9 0⟩, ⟨5, .log 8⟩]

/-- The script is cut after the move, and its control registers are read back from the highest address to
the lowest. -/
theorem play_of_reload_moved :
    let b := Operation.session supervised (Task.session [] (.start {}))
    let cut := (play moving b).state
    (play moving b).result = .ok [⟨1, .resumed 0x40000004 .supervisor⟩] ∧
      ∃ loaded, Bench.load (cut.snapshot.withEntries cut.hart.csrs.rawEntries.reverse).file = .ok loaded ∧
        (play (moving ++ failing) b).state = (play failing loaded).state ∧
        (play (moving ++ failing) b).result =
          .ok [⟨1, .resumed 0x40000004 .supervisor⟩, ⟨4, .halted (.fail 9)⟩] := by
  refine ⟨by rfl, ?_⟩
  obtain ⟨loaded, answer, state, -, -⟩ :=
    play_of_reload {} [] supervised moving failing (by rfl) _ (List.reverse_perm _)
  exact ⟨loaded, answer, state, by rfl⟩

end Script

end HartTraps
