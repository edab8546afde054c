import HartTraps.Proofs.Csr.StatusFields
import HartTraps.TestTable.Walk

/-!
# Cases that set a control register

A case that neither changes the mode nor accesses memory sets one control register, and some of these cases
also log a word. `TestCase.assignment?` says which register becomes what and which word is logged. While
the log has room such a case does this and nothing else (`Bench.routine_of_room`). Without room a case
that logs fails, and then the order of the two parts counts: the redirection flag is logged before it is
replaced, a register of the protection unit after it is set (`Bench.routine_of_full`).
-/

namespace HartTraps

/-! ## One register and the log -/

namespace Bench

/-- From `b` to `c` the register `a` becomes `w`, the words `logged` are appended, and nothing else
changes. -/
structure OnlySets (a : CsrAddress) (w : Word) (logged : List Word) (b c : Bench) : Prop where
  register : c.hart.csrs.read a = w
  others : ∀ other ≠ a, c.hart.csrs.read other = b.hart.csrs.read other
  pc : c.hart.pc = b.hart.pc
  mode : c.hart.mode = b.hart.mode
  registers : c.hart.registers = b.hart.registers
  log : c.log = { b.log with words := b.log.words ++ logged }
  settings : c.settings = b.settings
  machineFrame : c.machineFrame = b.machineFrame
  supervisorFrame : c.supervisorFrame = b.supervisorFrame
  phase : c.phase = b.phase
  defaultVector : c.defaultVector = b.defaultVector

/-- If nothing is logged, the bench is the same exactly if the register held the word already. -/
theorem OnlySets.eq_self_iff {a : CsrAddress} {w : Word} {b c : Bench} (sets : b.OnlySets a w [] c) :
    c = b ↔ b.hart.csrs.read a = w := by
  constructor
  · rintro rfl
    exact sets.register
  · intro held
    have csrs : c.hart.csrs = b.hart.csrs := by
      apply CsrFile.ext
      intro other
      by_cases own : other = a
      · rw [own, sets.register, held]
      · exact sets.others other own
    have hart : c.hart = b.hart := Hart.ext sets.pc sets.mode sets.registers csrs
    have log : c.log = b.log := by
      rw [sets.log, List.append_nil]
    obtain ⟨_, _, _, _, _, _, _⟩ := b
    obtain ⟨_, _, _, _, _, _, _⟩ := c
    cases hart
    cases log
    cases sets.settings
    cases sets.machineFrame
    cases sets.supervisorFrame
    cases sets.phase
    cases sets.defaultVector
    rfl

end Bench

/-! ## Assignments -/

/-- What a case does to the control registers and to the log. -/
structure Assignment where
  register : CsrAddress
  word : Word
  /-- The word that is logged, if any is. -/
  report : Option Word

/-- The assignment of a case while the status register holds `status`, unless its routine changes the mode,
ends the run or accesses memory. -/
def TestCase.assignment? (case : TestCase) (status : Word) : Routine → Option Assignment
  | .setPaging scheme => some ⟨.satp, scheme.satp case, none⟩
  | .setPageAccess => some ⟨.mstatus, Status.insert Status.rights (case.value <<< 18) status, none⟩
  | .exchangeMprv =>
    some ⟨.mstatus, Status.insert Status.redirection (Status.redirect case.value) status,
      some ((status &&& Status.mprv) >>> 17)⟩
  | .setPmpConfig n => some ⟨.pmpConfig n, case.value, some case.value⟩
  | .setPmpAddress n => some ⟨.pmpAddress n, case.value, some case.value⟩
  | .goto _ | .finish | .store _ | .load _ | .fetch => none

/-- What is logged of a register of the protection unit is its new word. -/
theorem TestCase.word_of_report (case : TestCase) {status : Word} {routine : Routine} {asg : Assignment}
    (assigns : case.assignment? status routine = some asg) (other : routine ≠ .exchangeMprv) (w : Word)
    (reported : w ∈ asg.report) : w = asg.word := by
  cases routine with
  | setPaging scheme =>
    cases assigns
    cases reported
  | setPageAccess =>
    cases assigns
    cases reported
  | exchangeMprv => exact absurd rfl other
  | setPmpConfig n =>
    cases assigns
    exact (Option.mem_some.mp reported).symm
  | setPmpAddress n =>
    cases assigns
    exact (Option.mem_some.mp reported).symm
  | _ => cases assigns

namespace Bench

variable {b : Bench} {case : TestCase} {routine : Routine} {asg : Assignment}

/-- The bench with an assignment carried out. -/
def assign (asg : Assignment) (b : Bench) : Bench :=
  { b with
    hart := b.hart.writeCsr asg.register asg.word
    log := { b.log with words := b.log.words ++ asg.report.toList } }

theorem onlySets_assign (asg : Assignment) (b : Bench) :
    b.OnlySets asg.register asg.word asg.report.toList (b.assign asg) where
  register := CsrFile.read_write_self _ asg.register asg.word
  others _ ne := CsrFile.read_write_of_ne ne
  pc := rfl
  mode := rfl
  registers := rfl
  log := rfl
  settings := rfl
  machineFrame := rfl
  supervisorFrame := rfl
  phase := rfl
  defaultVector := rfl

theorem assign_of_silent (silent : asg.report = none) (b : Bench) :
    b.assign asg = { b with hart := b.hart.writeCsr asg.register asg.word } := by
  unfold assign
  rw [silent, Option.toList_none, List.append_nil]

section Room

variable (room : b.log.words.length < b.log.capacity.toNat)

include room

theorem setAndLog_of_room (a : CsrAddress) (w : Word) :
    setAndLog a w b = ⟨.ok (), b.assign ⟨a, w, some w⟩, []⟩ := by
  rw [setAndLog_apply]
  exact append_of_room (b := { b with hart := b.hart.writeCsr a w }) room w

theorem exchangeMprv_of_room (case : TestCase) :
    let status := b.hart.csrs.read .mstatus
    exchangeMprv case b =
      ⟨.ok (), b.assign ⟨.mstatus, Status.insert Status.redirection (Status.redirect case.value) status,
        some ((status &&& Status.mprv) >>> 17)⟩, []⟩ := by
  intro status
  have logged := append_of_room room ((status &&& Status.mprv) >>> 17)
  have word : Status.insert Status.redirection (Status.redirect case.value) status =
      (status &&& ~~~Status.redirection) ||| ((case.value &&& 1) <<< 17) |||
        (Mode.supervisor.code <<< 11) := by
    rw [Status.insert, Status.redirect_and, Status.redirect, BitVec.or_assoc]
  have answer : (getCsr .mstatus b).state = b := rfl
  rw [word]
  unfold exchangeMprv
  rw [Run.bind_apply_of_ok (a := status) rfl, answer, Run.bind_apply_of_ok (a := ()) (by rw [logged]),
    logged]
  rfl

end Room

section Full

variable (full : b.log.capacity.toNat ≤ b.log.words.length)

include full

theorem setAndLog_of_full (a : CsrAddress) (w : Word) :
    setAndLog a w b = ⟨.error (.logFull b.log.capacity), b.assign ⟨a, w, none⟩, []⟩ := by
  rw [setAndLog_apply, assign_of_silent rfl]
  exact append_of_full (b := { b with hart := b.hart.writeCsr a w }) full w

theorem exchangeMprv_of_full (case : TestCase) :
    exchangeMprv case b = ⟨.error (.logFull b.log.capacity), b, []⟩ := by
  have refused := append_of_full full ((b.hart.csrs.read .mstatus &&& Status.mprv) >>> 17)
  have answer : (getCsr .mstatus b).state = b := rfl
  unfold exchangeMprv
  rw [Run.bind_apply_of_ok (a := b.hart.csrs.read .mstatus) rfl, answer,
    Run.bind_apply_of_error (by rw [refused]), refused]
  rfl

end Full

variable {run : Run Bench Unit} (own : routine? case routine = some run)
  (assigns : case.assignment? (b.hart.csrs.read .mstatus) routine = some asg)

include own assigns

/-- While the log has room for what is logged, a case carries out its assignment. -/
theorem routine_of_room (room : asg.report = none ∨ b.log.words.length < b.log.capacity.toNat) :
    run b = ⟨.ok (), b.assign asg, []⟩ := by
  cases routine with
  | setPaging scheme =>
    cases own
    cases assigns
    rw [assign_of_silent (by rfl)]
    rfl
  | setPageAccess =>
    cases own
    cases assigns
    rw [assign_of_silent (by rfl)]
    rfl
  | exchangeMprv =>
    cases own
    cases assigns
    exact exchangeMprv_of_room (room.resolve_left (Option.some_ne_none _)) case
  | setPmpConfig n =>
    cases own
    cases assigns
    exact setAndLog_of_room (room.resolve_left (Option.some_ne_none _)) _ _
  | setPmpAddress n =>
    cases own
    cases assigns
    exact setAndLog_of_room (room.resolve_left (Option.some_ne_none _)) _ _
  | _ => cases assigns

/-- Without room a case that logs fails: before anything else if it logs the redirection flag, else with its
register set. -/
theorem routine_of_full (reports : asg.report ≠ none)
    (full : b.log.capacity.toNat ≤ b.log.words.length) :
    run b = ⟨.error (.logFull b.log.capacity),
      if routine = .exchangeMprv then b else b.assign { asg with report := none }, []⟩ := by
  cases routine with
  | setPaging scheme =>
    cases assigns
    exact absurd rfl reports
  | setPageAccess =>
    cases assigns
    exact absurd rfl reports
  | exchangeMprv =>
    cases own
    rw [if_pos rfl]
    exact exchangeMprv_of_full full case
  | setPmpConfig n =>
    cases own
    cases assigns
    exact setAndLog_of_full full _ _
  | setPmpAddress n =>
    cases own
    cases assigns
    exact setAndLog_of_full full _ _
  | _ => cases assigns

end Bench

namespace TestTable

variable {σ : Type}

/-- A case succeeds and does nothing but set the register `a` to `w` and log the words `logged`. -/
def Sets (probe : Probe σ) (case : TestCase) (routine : Routine) (x : Bench × σ) (a : CsrAddress)
    (w : Word) (logged : List Word) : Prop :=
  ∃ c, runCase probe case routine x = ⟨.ok (), (c, x.2), []⟩ ∧ x.1.OnlySets a w logged c

variable {asg : Assignment} {b : Bench}

section Assigns

variable (probe : Probe σ) (case : TestCase) (routine : Routine) (s : σ)
  (assigns : case.assignment? (b.hart.csrs.read .mstatus) routine = some asg)

include assigns

/-- A case that has an assignment is not for the probe. -/
theorem runCase_of_assigns :
    ∃ run, Bench.routine? case routine = some run ∧
      runCase probe case routine (b, s) = ⟨(run b).result, ((run b).state, s), (run b).notes⟩ := by
  have own : ∃ run, Bench.routine? case routine = some run := by
    cases routine with
    | store width => cases assigns
    | load width => cases assigns
    | fetch => cases assigns
    | _ => exact ⟨_, rfl⟩
  obtain ⟨run, own⟩ := own
  exact ⟨run, own, congrFun (runCase_of_own own) (b, s)⟩

theorem sets_of_room (room : asg.report = none ∨ b.log.words.length < b.log.capacity.toNat) :
    Sets probe case routine (b, s) asg.register asg.word asg.report.toList := by
  obtain ⟨run, own, ran⟩ := runCase_of_assigns probe case routine s assigns
  rw [Bench.routine_of_room own assigns room] at ran
  exact ⟨_, ran, Bench.onlySets_assign asg b⟩

end Assigns

/-- If what a case logs has room, or it logs nothing, then it sets its register, logs its report, which for
a register of the protection unit is what the register then holds, and does nothing else. If a case is to
log a word and the log is full, then the case fails with that error, and what is left differs. The flag
that redirects loads and stores is logged before it is replaced, so nothing has changed. A register of the
protection unit is set by then: it keeps the new word, and nothing is logged. -/
theorem assignment_of_case (probe : Probe σ) (case : TestCase) (routine : Routine) (s : σ)
    (assigns : case.assignment? (b.hart.csrs.read .mstatus) routine = some asg) :
    (asg.report = none ∨ b.log.words.length < b.log.capacity.toNat →
      Sets probe case routine (b, s) asg.register asg.word asg.report.toList ∧
        (routine ≠ .exchangeMprv → ∀ w ∈ asg.report, w = asg.word)) ∧
    (asg.report ≠ none → b.log.capacity.toNat ≤ b.log.words.length →
      ∃ c, runCase probe case routine (b, s) = ⟨.error (.logFull b.log.capacity), (c, s), []⟩ ∧
        (routine = .exchangeMprv → c = b) ∧
        (routine ≠ .exchangeMprv → b.OnlySets asg.register asg.word [] c ∧
          (c = b ↔ b.hart.csrs.read asg.register = asg.word))) := by
  constructor
  · intro room
    exact ⟨sets_of_room probe case routine s assigns room, case.word_of_report assigns⟩
  · intro reports full
    obtain ⟨run, own, ran⟩ := runCase_of_assigns probe case routine s assigns
    rw [Bench.routine_of_full own assigns reports full] at ran
    refine ⟨_, ran, fun flag => if_pos flag, fun other => ?_⟩
    rw [if_neg other]
    have sets := Bench.onlySets_assign { asg with report := none } b
    exact ⟨sets, sets.eq_self_iff⟩

/-- A register of the protection unit is set and logged while there is room; the redirection flag is left
alone once there is none. -/
theorem assignment_of_case_room_and_full :
    let probe : Probe Unit := fun _ _ => pure ()
    Sets probe ⟨0, 0x1F, 0⟩ (.setPmpConfig 2) (.start { logCapacity := 1 }, ()) (.pmpConfig 2) 0x1F
        [0x1F] ∧
      ∃ c, runCase probe ⟨0, 1, 0⟩ .exchangeMprv (.start { logCapacity := 0 }, ()) =
          ⟨.error (.logFull 0), (c, ()), []⟩ ∧ c = .start { logCapacity := 0 } := by
  intro probe
  obtain ⟨sets, -⟩ := (assignment_of_case (b := .start { logCapacity := 1 }) probe ⟨0, 0x1F, 0⟩
    (.setPmpConfig 2) () rfl).1 (.inr (by decide))
  obtain ⟨c, failed, same, -⟩ := (assignment_of_case (b := .start { logCapacity := 0 }) probe ⟨0, 1, 0⟩
    .exchangeMprv () rfl).2 (Option.some_ne_none _) (by decide)
  exact ⟨sets, c, failed, same rfl⟩

/-- A case that fails because the log is full can leave a register of the protection unit changed. -/
theorem protection_register_half_set :
    let probe : Probe Unit := fun _ _ => pure ()
    let b := Bench.start { logCapacity := 0 }
    let reply := runCase probe ⟨0, 7, 0x48⟩ (.setPmpConfig 0) (b, ())
    reply.result = .error (.logFull 0) ∧ b.hart.csrs.read 0x3A0 = 0 ∧
      reply.state.1.hart.csrs.read 0x3A0 = 7 ∧ reply.state.1.log.words = [] ∧
      ¬∀ (probe : Probe Unit) case routine b asg,
        case.assignment? (b.hart.csrs.read .mstatus) routine = some asg →
        (runCase probe case routine (b, ())).result = .error (.logFull b.log.capacity) →
        (runCase probe case routine (b, ())).state = (b, ()) := by
  intro probe b reply
  have failed : reply.result = .error (.logFull 0) := by rfl
  have changed : reply.state.1.hart.csrs.read 0x3A0 = 7 := by rfl
  refine ⟨failed, by rfl, changed, by rfl, fun atomic => ?_⟩
  have same : reply.state = (b, ()) := atomic probe ⟨0, 7, 0x48⟩ (.setPmpConfig 0) b _ rfl failed
  rw [same] at changed
  revert changed
  decide

end TestTable

end HartTraps
