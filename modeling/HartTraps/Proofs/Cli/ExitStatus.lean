import HartTraps.Proofs.Cli.Replay
import HartTraps.Proofs.Script.Reports

/-!
# Exit statuses and payloads

The verdict of a run reaches the outside twice: a replay exits with 1 if the run has failed, and the surrounding
framework gets a payload. The payload is the raw cause of the trap that ended the run, or what the program had
in a1 when it called for a failure, and either can be 0. So the exit status tells every failure from a pass, and
the payload tells those whose value is not 0 (`Cli.status_of_replay`).
-/

namespace HartTraps

namespace Bench

/-- The run has failed, and this is the value of its verdict. -/
def FailedWith (b : Bench) (w : Word) : Prop :=
  b.phase = .halted (.fail w) ∨ b.phase = .halted (.fatal w)

theorem payload_of_failedWith {b : Bench} {w : Word} (failed : b.FailedWith w) : b.payload = w := by
  unfold payload verdict?
  rcases failed with phase | phase <;> rw [phase] <;> rfl

/-- A run that has not failed has the payload 0. -/
theorem payload_of_not_failed {b : Bench} (passed : ¬∃ w, b.FailedWith w) : b.payload = 0 := by
  unfold payload
  cases ended : b.verdict? with
  | none => rfl
  | some v =>
    have phase := verdict?_eq_some_iff.mp ended
    cases v with
    | pass => rfl
    | fail w => exact absurd ⟨w, .inl phase⟩ passed
    | fatal w => exact absurd ⟨w, .inr phase⟩ passed

end Bench

/-! ## What ends a run as failed -/

namespace Script

/-- A command that ends the run as failed: a trap with an unexpected cause, or a call for a failure, which a
trap command can make as well. -/
inductive Command.Fails (c : Command) (b : Bench) : Verdict → Prop where
  | unexpected {cause : Word} {address : Option Word} {instruction : Option (BitVec 32)}
      (command : c = .trap cause address instruction) : Fails c b (.fatal cause)
  | called {page pageType : Word} (command : c = .call 1 page pageType) : Fails c b (.fail page)
  | trapped {cause : Word} {address : Option Word} {instruction : Option (BitVec 32)}
      (command : c = .trap cause address instruction) (call : cause ∈ [8, 9, 11])
      (op : b.hart.read .a0 = 1) : Fails c b (.fail (b.hart.read .a1))

/-- A command that ends the run ends it as passed or as failed. -/
theorem fails_of_play {c : Command} {b : Bench} {v : Verdict}
    (done : (c.play b).result = .ok (some (.halted v))) : v = .pass ∨ c.Fails b v := by
  have takes : c.takesTrap = true := by
    cases answers_of_play done with
    | trap takes => exact takes
  cases c with
  | trap cause address instruction =>
    rw [Command.play_trap] at done
    obtain ⟨o, accepted, same⟩ := Run.map_eq_ok.mp done
    cases same
    obtain passed | rfl | ⟨rfl, op, call⟩ :=
      Architecture.verdict_of_outcome (Bench.outcome_of_raise accepted)
    · exact .inl passed
    · exact .inr (.unexpected rfl)
    · exact .inr (.trapped rfl call op)
  | call op page pageType =>
    rw [Command.play_call] at done
    obtain ⟨o, accepted, same⟩ := Run.map_eq_ok.mp done
    cases same
    rw [Bench.call_apply] at accepted
    have halted := Bench.outcome_of_raise accepted
    rw [Architecture.outcome_environmentCall] at halted
    have request := Bench.request_setRequest b { op, page, pageType }
    have a0 : (b.setRequest { op, page, pageType }).hart.read .a0 = op := congrArg CallRequest.op request
    have a1 : (b.setRequest { op, page, pageType }).hart.read .a1 = page :=
      congrArg CallRequest.page request
    obtain passed | ⟨rfl, asked⟩ := Architecture.verdict_of_call halted
    · exact .inl passed
    · rw [a0] at asked
      rw [a1, asked]
      exact .inr (.called rfl)
  | terminate =>
    rw [Command.play_terminate] at done
    obtain ⟨o, accepted, same⟩ := Run.map_eq_ok.mp done
    cases same
    obtain ⟨passed, -⟩ := Bench.state_of_terminate accepted
    cases passed
    exact .inl rfl
  | install _ _ _ | delegate _ _ | mode _ | pc _ | register _ _ | log _ => cases takes

/-- A script that ends the run as failed does so with its last line that is carried out. -/
theorem fails_of_executes {b final : Bench} {lines : List Line} {rs : List Report}
    (executes : Executes b lines rs final) (running : b.verdict? = none) {v : Verdict}
    (ended : final.verdict? = some v) (failed : v ≠ .pass) :
    ∃ before line earlier found, lines = before ++ [line] ∧ Executes b before earlier found ∧
      line.command.Fails found v ∧ final = (line.command.play found).state := by
  obtain ⟨before, line, earlier, found, split, played, outcome, state⟩ :=
    executes.exists_ending running ended
  obtain passed | fails := fails_of_play outcome
  · exact absurd passed failed
  · exact ⟨before, line, earlier, found, split, played, fails, state⟩

end Script

/-! ## Exit statuses -/

namespace Cli

/-- The exit status of a replay whose run has this verdict. -/
def exitStatus : Option Verdict → Nat
  | some v => if v.isPass then 0 else 1
  | none => 0

/-- A replay exits with 0 exactly if its run has not failed. -/
theorem exitStatus_eq_zero_iff {b : Bench} : exitStatus b.verdict? = 0 ↔ ¬∃ w, b.FailedWith w := by
  unfold Bench.FailedWith Bench.verdict?
  cases phase : b.phase with
  | halted v => cases v <;> simp [exitStatus, Verdict.isPass]
  | _ => simp [exitStatus]

section Replay

variable {settings : Settings} {script : String} {signature dump snapshot restore : Option String}
  {t u : Terminal} {status : Nat}

theorem run_perform_eq_ok :
    (perform Terminal.host ⟨settings, .replay script signature dump snapshot restore⟩).run.run t =
        (.ok status, u) ↔
      ∃ verdict, (replay Terminal.host settings script signature dump snapshot restore).run.run t =
        (.ok verdict, u) ∧ exitStatus verdict = status := by
  unfold perform
  constructor
  · intro done
    obtain ⟨verdict, v, replayed, done⟩ := run_bind_eq_ok.mp done
    cases verdict <;> cases done <;> exact ⟨_, replayed, rfl⟩
  · rintro ⟨verdict, replayed, rfl⟩
    refine run_bind_eq_ok.mpr ⟨verdict, u, replayed, ?_⟩
    cases verdict <;> rfl

/-- A replay that stores nothing comes to its end if its script is read and played without an error. -/
theorem perform_of_replays {b : Bench} {lines : List Script.Line} {reports : List Script.Report}
    (replays : Replays t settings script restore b lines reports) :
    ∃ u, (perform Terminal.host ⟨settings, .replay script none none none restore⟩).run.run t =
      (.ok (exitStatus (Script.play lines b).state.verdict?), u) := by
  obtain ⟨u, replayed⟩ := replay_of_replays replays
  exact ⟨u, run_perform_eq_ok.mpr ⟨_, replayed, rfl⟩⟩

theorem run_of_perform {arguments : List String} {invocation : Invocation}
    (asked : Invocation.ofArguments arguments = .ok invocation)
    (done : (perform Terminal.host invocation).run.run t = (.ok status, u)) :
    (run Terminal.host arguments).run t = (.exited status, u) := by
  unfold run
  rw [asked]
  dsimp only
  rw [StateT.run_bind, done]
  rfl

/-- A replay that comes to its end exits with 0 if the run has not failed, and otherwise with 1. The payload of
a failed run is the value of its verdict, and that of any other run is 0; so it is 0 exactly if the replay exits
with 0 or the run has failed with 0. Unless the run was over before the replay, it has failed by a trap whose raw
cause is the payload, or by a call for a failure with the payload in a1. -/
theorem status_of_replay {arguments : List String}
    (asked : Invocation.ofArguments arguments =
      .ok ⟨settings, .replay script signature dump snapshot restore⟩)
    (done : (perform Terminal.host ⟨settings, .replay script signature dump snapshot restore⟩).run.run t =
      (.ok status, u)) :
    (run Terminal.host arguments).run t = (.exited status, u) ∧
      ∃ b lines reports, Replays t settings script restore b lines reports ∧
        let final := (Script.play lines b).state
        (status = 0 ∨ status = 1) ∧
        (status = 0 ↔ ¬∃ w, final.FailedWith w) ∧
        (final.payload = 0 ↔ status = 0 ∨ final.FailedWith 0) ∧
        (∀ w, final.FailedWith w → final.payload = w) ∧
        (b.verdict? = none → ∀ v, final.verdict? = some v → v ≠ .pass →
          ∃ before line after earlier found, lines = before ++ line :: after ∧
            Script.Executes b before earlier found ∧ line.command.Fails found v ∧
            final = (line.command.play found).state) := by
  refine ⟨run_of_perform asked done, ?_⟩
  obtain ⟨verdict, replayed, rfl⟩ := run_perform_eq_ok.mp done
  obtain ⟨b, lines, reports, replays, rfl⟩ := replays_of_replay replayed
  refine ⟨b, lines, reports, replays, ?_⟩
  intro final
  have passed : exitStatus final.verdict? = 0 ↔ ¬∃ w, final.FailedWith w := exitStatus_eq_zero_iff
  refine ⟨?binary, passed, ⟨?failed, ?silent⟩, fun w failed => Bench.payload_of_failedWith failed, ?ending⟩
  case binary =>
    cases final.verdict? with
    | none => exact .inl rfl
    | some v => cases v <;> simp [exitStatus, Verdict.isPass]
  case failed =>
    intro zero
    by_cases failed : ∃ w, final.FailedWith w
    · obtain ⟨w, failed⟩ := failed
      obtain rfl : w = 0 := (Bench.payload_of_failedWith failed).symm.trans zero
      exact .inr failed
    · exact .inl (passed.mpr failed)
  case silent =>
    rintro (exited | failed)
    · exact Bench.payload_of_not_failed (passed.mp exited)
    · exact Bench.payload_of_failedWith failed
  case ending =>
    intro running v ended failed
    obtain ⟨executed, skipped, split, executes, -⟩ := Script.executes_of_play replays.played
    obtain ⟨before, line, earlier, found, last, played, fails, state⟩ :=
      Script.fails_of_executes executes running ended failed
    refine ⟨before, line, skipped, earlier, found, ?_, played, fails, state⟩
    rw [split, last, List.append_assoc]
    rfl

end Replay

/-- Two failures whose value is 0: a call for a failure with 0 in a1, and a trap with the raw cause 0. -/
def quietFailures : Terminal :=
  { place := .file
    files :=
      [("call", "install m 0x80000100\necall 1 0".toUTF8.data.toList),
        ("trap", "install m 0x80000100\ntrap 0".toUTF8.data.toList)] }

/-- The lines of both scripts. -/
def quietLines (last : Script.Command) : List Script.Line :=
  [⟨1, .install .machine 0x80000100 .direct⟩, ⟨2, last⟩]

theorem replays_quietCall :
    Replays quietFailures {} "call" none (.start {}) (quietLines (.call 1 0 0))
      [⟨2, .halted (.fail 0)⟩] :=
  ⟨⟨_, Terminal.holds_of_read rfl, by rfl⟩, .fresh, by rfl⟩

theorem replays_quietTrap :
    Replays quietFailures {} "trap" none (.start {}) (quietLines (.trap 0 none none))
      [⟨2, .halted (.fatal 0)⟩] :=
  ⟨⟨_, Terminal.holds_of_read rfl, by rfl⟩, .fresh, by rfl⟩

theorem perform_quietCall :
    ∃ u, (perform Terminal.host ⟨{}, .replay "call" none none none none⟩).run.run quietFailures = (.ok 1, u) :=
  perform_of_replays replays_quietCall

theorem perform_quietTrap :
    ∃ u, (perform Terminal.host ⟨{}, .replay "trap" none none none none⟩).run.run quietFailures = (.ok 1, u) :=
  perform_of_replays replays_quietTrap

/-- The trap exits with 1, although it has the payload of a pass. -/
theorem status_of_replay_quietTrap :
    Invocation.ofArguments ["replay", "trap"] = .ok ⟨{}, .replay "trap" none none none none⟩ ∧
      (∃ u, (perform Terminal.host ⟨{}, .replay "trap" none none none none⟩).run.run quietFailures =
          (.ok 1, u) ∧
        (run Terminal.host ["replay", "trap"]).run quietFailures = (.exited 1, u)) ∧
      (Script.play (quietLines (.trap 0 none none)) (.start {})).state.FailedWith 0 ∧
      (Script.play (quietLines (.trap 0 none none)) (.start {})).state.payload = 0 := by
  have asked : Invocation.ofArguments ["replay", "trap"] =
      .ok ⟨{}, .replay "trap" none none none none⟩ := by rfl
  obtain ⟨u, done⟩ := perform_quietTrap
  obtain ⟨exited, b, lines, reports, replays, -, -, -, payload, -⟩ := status_of_replay asked done
  obtain ⟨rfl, rfl⟩ := replays.unique replays_quietTrap
  have failed : (Script.play (quietLines (.trap 0 none none)) (.start {})).state.FailedWith 0 :=
    .inr (by rfl)
  exact ⟨asked, ⟨u, done, exited⟩, failed, payload 0 failed⟩

/-- Both failures exit with 1, and both have the payload of a pass. -/
theorem payload_of_quietFailures :
    (∃ u, (perform Terminal.host ⟨{}, .replay "call" none none none none⟩).run.run quietFailures =
        (.ok 1, u)) ∧
      (Script.play (quietLines (.call 1 0 0)) (.start {})).state.phase = .halted (.fail 0) ∧
      (Script.play (quietLines (.call 1 0 0)) (.start {})).state.payload = 0 ∧
      (∃ u, (perform Terminal.host ⟨{}, .replay "trap" none none none none⟩).run.run quietFailures =
        (.ok 1, u)) ∧
      (Script.play (quietLines (.trap 0 none none)) (.start {})).state.phase = .halted (.fatal 0) ∧
      (Script.play (quietLines (.trap 0 none none)) (.start {})).state.payload = 0 ∧
      ¬∀ (t u : Terminal) (settings : Settings) (script : String)
        (signature dump snapshot restore : Option String) (status : Nat) (b : Bench)
        (lines : List Script.Line) (reports : List Script.Report),
        (perform Terminal.host ⟨settings, .replay script signature dump snapshot restore⟩).run.run t =
            (.ok status, u) →
          Replays t settings script restore b lines reports →
            ((Script.play lines b).state.payload = 0 ↔ status = 0) := by
  refine ⟨perform_quietCall, by rfl, by rfl, perform_quietTrap, by rfl, by rfl, fun told => ?_⟩
  obtain ⟨u, done⟩ := perform_quietCall
  have status := told _ u _ _ none none none _ 1 _ _ _ done replays_quietCall
  exact absurd (status.mp (by rfl)) (by decide)

end Cli

end HartTraps
