import HartTraps.Proofs.Script.Lines
import HartTraps.Proofs.Trap.Closing
import HartTraps.Script.Play

/-!
# Reports of a script

Playing a script carries out its lines one after the other until the script or the run ends
(`Script.Executes`), and each line that takes a trap gives one report. So a report that the run has ended is
the last one, and it is about the last line that was carried out; no line after it had an effect
(`Script.reports_of_play`).
-/

namespace HartTraps

/-- The verdict of a run that ended with this outcome. -/
def Outcome.verdict? : Outcome → Option Verdict
  | .resumed _ _ => none
  | .halted v => some v

namespace Script

/-- Whether a command takes a trap. -/
def Command.takesTrap : Command → Bool
  | .trap _ _ _ | .call _ _ _ | .terminate => true
  | _ => false

/-- Lines that are carried out one after the other, each of which finds the run not ended, their reports, and
the bench before and after them. -/
inductive Executes : Bench → List Line → List Report → Bench → Prop where
  | nil (b : Bench) : Executes b [] [] b
  | cons {b final : Bench} {line : Line} {lines : List Line} {outcome : Option Outcome} {rs : List Report}
      (running : b.verdict? = none) (answer : (line.command.play b).result = .ok outcome)
      (rest : Executes (line.command.play b).state lines rs final) :
      Executes b (line :: lines) (reports line.number outcome ++ rs) final

/-! ## Commands -/

/-- A command that takes a trap gives its outcome, and the run has ended if this says so; any other command
gives none, and the run goes on if it did. -/
inductive Command.Answers (c : Command) (b : Bench) : Option Outcome → Prop where
  | trap {o : Outcome} (takes : c.takesTrap = true) (verdict : (c.play b).state.verdict? = o.verdict?) :
      Answers c b (some o)
  | setting (takes : c.takesTrap = false) (verdict : (c.play b).state.verdict? = b.verdict?) :
      Answers c b none

section Answers

variable {c : Command} {b : Bench} {outcome : Option Outcome}

theorem verdict?_of_phase {o : Outcome} (settled : b.phase = o.phase) : b.verdict? = o.verdict? := by
  unfold Bench.verdict?
  rw [settled]
  cases o <;> rfl

theorem answers_of_setting (x : Run Bench Unit) (takes : c.takesTrap = false)
    (play : c.play b = ((fun _ => none) <$> x) b) (kept : (x b).state.phase = b.phase)
    (done : (c.play b).result = .ok outcome) : c.Answers b outcome := by
  rw [play] at done
  obtain ⟨_, -, rfl⟩ := Run.map_eq_ok.mp done
  refine .setting takes ?_
  unfold Bench.verdict?
  rw [play, Run.map_apply, kept]

theorem answers_of_trap (x : Run Bench Outcome) (takes : c.takesTrap = true)
    (play : c.play b = (some <$> x) b) (settled : ∀ o, (x b).result = .ok o → (x b).state.phase = o.phase)
    (done : (c.play b).result = .ok outcome) : c.Answers b outcome := by
  rw [play] at done
  obtain ⟨o, accepted, rfl⟩ := Run.map_eq_ok.mp done
  refine .trap takes (verdict?_of_phase ?_)
  rw [play]
  exact settled o accepted

theorem answers_of_play (done : (c.play b).result = .ok outcome) : c.Answers b outcome := by
  cases c with
  | install level base vectoring =>
    refine answers_of_setting (Bench.install level base vectoring) rfl
      (by simp only [Command.play, bind_pure_comp]) ?_ done
    unfold Bench.install
    cases level.handlerLevel? with
    | none => rfl
    | some handler => cases handler <;> rfl
  | log w =>
    refine answers_of_setting (Bench.append w) rfl (by simp only [Command.play, bind_pure_comp]) ?_ done
    unfold Bench.append
    cases b.log.append? w <;> rfl
  | trap cause address instruction =>
    exact answers_of_trap (Bench.raise (trapAt b.hart.mode b.hart.pc cause address instruction)) rfl
      (Command.play_trap b cause address instruction) (fun _ => Bench.phase_of_raise) done
  | call op page pageType =>
    exact answers_of_trap (Bench.call { op, page, pageType }) rfl (Command.play_call b op page pageType)
      (fun _ => Bench.phase_of_raise) done
  | terminate =>
    refine answers_of_trap Bench.terminate rfl (Command.play_terminate b) (fun o ended => ?_) done
    obtain ⟨rfl, -, closed⟩ := Bench.state_of_terminate ended
    rw [closed]
    rfl
  | delegate exceptions interrupts | mode m | pc w | register r w =>
    cases done
    exact .setting rfl rfl

end Answers

/-! ## Lines that are carried out -/

/-- Of a script the lines up to some point are carried out, and the others only if the run has not ended. -/
theorem executes_of_play {script : List Line} {b : Bench} {rs : List Report}
    (done : (play script b).result = .ok rs) :
    ∃ executed skipped, script = executed ++ skipped ∧ Executes b executed rs (play script b).state ∧
      (skipped ≠ [] → ∃ v, (play script b).state.verdict? = some v) := by
  induction script, b using play_induction generalizing rs with
  | nil b =>
    cases done
    exact ⟨[], [], rfl, .nil b, fun more => absurd rfl more⟩
  | ended line rest b v running =>
    rw [play_of_verdict running] at done ⊢
    cases done
    exact ⟨[], line :: rest, rfl, .nil b, fun _ => ⟨v, running⟩⟩
  | failed line rest b e running answer =>
    rw [play_of_error running answer] at done
    cases done
  | done line rest b outcome running answer ih =>
    rw [play_of_ok running answer] at done ⊢
    obtain ⟨later, played, rfl⟩ := Run.map_eq_ok.mp done
    obtain ⟨executed, skipped, rfl, executes, ended⟩ := ih played
    exact ⟨line :: executed, skipped, rfl, .cons running answer executes, ended⟩

namespace Executes

variable {b final : Bench} {lines : List Line} {rs : List Report}

/-- Once the run has ended nothing is carried out. -/
theorem of_ended {v : Verdict} (executes : Executes b lines rs final) (ended : b.verdict? = some v) :
    lines = [] ∧ rs = [] ∧ final = b := by
  cases executes with
  | nil => exact ⟨rfl, rfl, rfl⟩
  | cons running =>
    rw [ended] at running
    cases running

/-- The reports are those of the lines that take traps. -/
theorem lines_eq (executes : Executes b lines rs final) :
    rs.map Report.line = (lines.filter (·.command.takesTrap)).map Line.number := by
  induction executes with
  | nil b => rfl
  | @cons b final line lines outcome rs running answer rest ih =>
    rw [List.map_append, ih, List.filter_cons]
    cases answers_of_play answer with
    | trap takes verdict =>
      rw [if_pos takes]
      rfl
    | setting takes verdict =>
      rw [takes]
      rfl

/-- A report is about a line whose trap had this outcome when the lines before it had been carried out. -/
theorem at_report (executes : Executes b lines rs final) {front back : List Report} {r : Report}
    (parts : rs = front ++ r :: back) :
    ∃ before line after found, lines = before ++ line :: after ∧ line.number = r.line ∧
      Executes b before front found ∧ (line.command.play found).result = .ok (some r.outcome) ∧
      Executes (line.command.play found).state after back final := by
  induction executes generalizing front with
  | nil b => exact absurd parts.symm (by simp)
  | @cons b final line lines outcome rs running answer rest ih =>
    cases answers_of_play answer with
    | @trap o takes verdict =>
      cases front with
      | nil =>
        cases parts
        exact ⟨[], line, lines, b, rfl, rfl, .nil b, answer, rest⟩
      | cons first front =>
        obtain ⟨rfl, others⟩ := List.cons.inj parts
        obtain ⟨before, here, after, found, rfl, number, earlier, outcome, later⟩ := ih others
        exact ⟨line :: before, here, after, found, rfl, number, .cons running answer earlier, outcome, later⟩
    | setting takes verdict =>
      obtain ⟨before, here, after, found, rfl, number, earlier, outcome, later⟩ := ih parts
      exact ⟨line :: before, here, after, found, rfl, number, .cons running answer earlier, outcome, later⟩

/-- If the run ends, then with the last report. -/
theorem exists_halted (executes : Executes b lines rs final) (running : b.verdict? = none) {v : Verdict}
    (ended : final.verdict? = some v) : ∃ r, rs.getLast? = some r ∧ r.outcome = .halted v := by
  induction executes with
  | nil b =>
    rw [running] at ended
    cases ended
  | @cons b final line lines outcome rs _ answer rest ih =>
    rw [List.getLast?_append]
    cases answers_of_play answer with
    | @trap o takes verdict =>
      cases o with
      | resumed pc mode =>
        obtain ⟨r, last, halted⟩ := ih verdict ended
        exact ⟨r, by rw [last, Option.some_or], halted⟩
      | halted w =>
        obtain ⟨-, rfl, rfl⟩ := rest.of_ended verdict
        rw [verdict] at ended
        cases ended
        exact ⟨⟨line.number, .halted v⟩, rfl, rfl⟩
    | setting takes verdict =>
      obtain ⟨r, last, halted⟩ := ih (verdict.trans running) ended
      exact ⟨r, by rw [last, Option.some_or], halted⟩

/-- A report that the run has ended is the last one, and the bench stays as its line left it. -/
theorem at_halted (executes : Executes b lines rs final) {front back : List Report} {r : Report}
    (parts : rs = front ++ r :: back) {v : Verdict} (halted : r.outcome = .halted v) :
    back = [] ∧ final.verdict? = some v ∧ ∃ before line found, lines = before ++ [line] ∧
      line.number = r.line ∧ Executes b before front found ∧
      (line.command.play found).result = .ok (some (.halted v)) ∧
      final = (line.command.play found).state := by
  obtain ⟨before, line, after, found, split, number, earlier, outcome, later⟩ := executes.at_report parts
  have ended : (line.command.play found).state.verdict? = some v := by
    cases answers_of_play outcome with
    | trap takes verdict =>
      rw [verdict, halted]
      rfl
  obtain ⟨rfl, rfl, rfl⟩ := later.of_ended ended
  rw [halted] at outcome
  exact ⟨rfl, ended, before, line, found, split, number, earlier, outcome, rfl⟩

/-- All reports but the last say that the program goes on. -/
theorem resumed_of_mem_dropLast (executes : Executes b lines rs final) {r : Report} (member : r ∈ rs.dropLast) :
    ∃ pc mode, r.outcome = .resumed pc mode := by
  cases outcome : r.outcome with
  | resumed pc mode => exact ⟨pc, mode, rfl⟩
  | halted v =>
    obtain ⟨front, back, parts⟩ := List.append_of_mem member
    have some_report : rs ≠ [] := by
      rintro rfl
      cases member
    have whole := List.dropLast_concat_getLast some_report
    rw [parts, List.append_assoc, List.cons_append] at whole
    obtain ⟨nothing, -⟩ := executes.at_halted whole.symm outcome
    exact absurd nothing (by simp)

/-- A run that the lines end is ended by the last of them. -/
theorem exists_ending (executes : Executes b lines rs final) (running : b.verdict? = none) {v : Verdict}
    (ended : final.verdict? = some v) :
    ∃ before line earlier found, lines = before ++ [line] ∧ Executes b before earlier found ∧
      (line.command.play found).result = .ok (some (.halted v)) ∧
      final = (line.command.play found).state := by
  obtain ⟨r, last, halted⟩ := executes.exists_halted running ended
  obtain ⟨front, parts⟩ := List.getLast?_eq_some_iff.mp last
  obtain ⟨-, -, before, line, found, split, -, earlier, outcome, state⟩ := executes.at_halted parts halted
  exact ⟨before, line, front, found, split, earlier, outcome, state⟩

end Executes

/-- If a script that was read from a text is played without an error, its lines are carried out up to some
point, and all of them unless the run ends. The reports are those of the lines that take traps among them, in
increasing order. All but the last say that the program goes on. A report that the run has ended is the last
one: its line is the last one that was carried out, the bench stays as this line left it, and the verdict is
the same. Such a report is there whenever the script ends the run. After the end of a run nothing is carried
out. -/
theorem reports_of_play {text : List Char} {script : List Line} {b : Bench} {rs : List Report}
    (parsed : parse text = .ok script) (done : (play script b).result = .ok rs) :
    let final := (play script b).state
    ∃ executed skipped, script = executed ++ skipped ∧ Executes b executed rs final ∧
      (skipped ≠ [] → ∃ v, final.verdict? = some v) ∧
      rs.map Report.line = (executed.filter (·.command.takesTrap)).map Line.number ∧
      (rs.map Report.line).Pairwise (· < ·) ∧
      (∀ r ∈ rs.dropLast, ∃ pc mode, r.outcome = .resumed pc mode) ∧
      (∀ r ∈ rs, ∀ v, r.outcome = .halted v →
        rs.getLast? = some r ∧ final.verdict? = some v ∧
          ∃ before line earlier found, executed = before ++ [line] ∧ line.number = r.line ∧
            Executes b before earlier found ∧ final = (line.command.play found).state) ∧
      (b.verdict? = none → ((∃ v, final.verdict? = some v) ↔
        ∃ r v, rs.getLast? = some r ∧ r.outcome = .halted v)) ∧
      ∀ v, b.verdict? = some v → rs = [] ∧ executed = [] ∧ final = b := by
  intro final
  obtain ⟨executed, skipped, split, executes, ended⟩ := executes_of_play done
  refine ⟨executed, skipped, split, executes, ended, executes.lines_eq, ?increasing,
    fun r member => executes.resumed_of_mem_dropLast member, ?halted,
    fun running => ⟨?ends, ?last⟩, ?before⟩
  case increasing =>
    have numbers : script.Pairwise (·.number < ·.number) := (numbers_of_ofLines parsed).2
    rw [split] at numbers
    rw [executes.lines_eq, List.pairwise_map]
    exact (List.pairwise_append.mp numbers).1.filter _
  case halted =>
    intro r member v halted
    obtain ⟨front, back, parts⟩ := List.append_of_mem member
    obtain ⟨rfl, verdict, before, line, found, cut, number, earlier, -, state⟩ :=
      executes.at_halted parts halted
    rw [parts]
    exact ⟨List.getLast?_concat, verdict, before, line, front, found, cut, number, earlier, state⟩
  case ends =>
    rintro ⟨v, verdict⟩
    obtain ⟨r, last, halted⟩ := executes.exists_halted running verdict
    exact ⟨r, v, last, halted⟩
  case last =>
    rintro ⟨r, v, last, halted⟩
    obtain ⟨front, parts⟩ := List.getLast?_eq_some_iff.mp last
    exact ⟨v, (executes.at_halted parts halted).2.1⟩
  case before =>
    intro v verdict
    obtain ⟨none_left, silent, same⟩ := executes.of_ended verdict
    exact ⟨silent, none_left, same⟩

/-- A script that goes on after a failure. -/
def overrun : List Char :=
  "install m 0x80000100 vectored\nmode s\ntrap 13 0xdead # goes on\n\necall 1 5\nmode u\nterminate".toList

/-- Its lines. -/
def overrunLines : List Line :=
  [⟨1, .install .machine 0x80000100 .vectored⟩, ⟨2, .mode .supervisor⟩, ⟨3, .trap 13 (some 0xdead) none⟩,
    ⟨5, .call 1 5 0⟩, ⟨6, .mode .user⟩, ⟨7, .terminate⟩]

/-- The failure is the last report, and neither the mode nor the end of the run on the lines after it has an
effect. -/
theorem reports_of_play_overrun :
    parse overrun = .ok overrunLines ∧
      (play overrunLines (.start {})).result =
        .ok [⟨3, .resumed 0x80000004 .supervisor⟩, ⟨5, .halted (.fail 5)⟩] ∧
      (play overrunLines (.start {})).state.verdict? = some (.fail 5) ∧
      ∃ before line skipped earlier found, overrunLines = before ++ [line] ++ skipped ∧ line.number = 5 ∧
        Executes (.start {}) before earlier found ∧
        (play overrunLines (.start {})).state = (line.command.play found).state := by
  have parsed : parse overrun = .ok overrunLines := by rfl
  have done : (play overrunLines (.start {})).result =
      .ok [⟨3, .resumed 0x80000004 .supervisor⟩, ⟨5, .halted (.fail 5)⟩] := by rfl
  obtain ⟨executed, skipped, split, -, -, -, -, -, halted, -⟩ := reports_of_play parsed done
  obtain ⟨-, verdict, before, line, earlier, found, rfl, number, executes, state⟩ :=
    halted ⟨5, .halted (.fail 5)⟩ (by simp) (.fail 5) rfl
  exact ⟨parsed, done, verdict, before, line, skipped, earlier, found, split, number, executes, state⟩

end Script

end HartTraps
