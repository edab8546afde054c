import HartTraps.Proofs.Session.Likeness
import HartTraps.Proofs.Session.Operations
import HartTraps.Proofs.Trap.Ending

/-!
# Recording causes is not observed

Whether the settings ask for the causes of traps makes a difference to the log only: to its words and,
after a move, to its virtual base, since a move works on a cursor that comes after the words. Neither
reaches the hart, because a handler decides without looking at the log.
-/

namespace HartTraps.Bench

/-- The bench with another log and with settings that do not ask for causes. -/
def unrecorded (b : Bench) (log : Log) : Bench :=
  { b with log, settings := { b.settings with recordCauses := false } }

/-- The second bench is the first one but for the record of causes: its log has the same capacity and no
more words. -/
def Unrecorded (b c : Bench) : Prop :=
  ∃ log, c = b.unrecorded log ∧ log.capacity = b.log.capacity ∧
    log.words.length ≤ b.log.words.length

section Unrecorded

variable (b : Bench) (log : Log) (level : TrapLevel) (f : TrapFrame)

/-- An ending does the same with another log, except that a move shifts each log by its own cursor. -/
theorem conclude_unrecorded (e : Ending) :
    ∃ base, (b.unrecorded log).conclude level f e =
      ((b.conclude level f e).1,
        (b.conclude level f e).2.unrecorded { log with virtualBase := base }) := by
  cases e with
  | halt v => exact ⟨log.virtualBase, rfl⟩
  | back csrs ret =>
    refine ⟨log.virtualBase, ?_⟩
    cases level <;> rfl
  | moved csrs move next =>
    refine ⟨(log.rebase (move.apply log.virtualCursor)).virtualBase, ?_⟩
    cases level <;> rfl

/-- So does a whole trap. -/
theorem take_unrecorded (t : Trap) :
    ∃ base, ((b.unrecorded log).take level f t).outcome = (b.take level f t).outcome ∧
      ((b.unrecorded log).take level f t).bench =
        (b.take level f t).bench.unrecorded { log with virtualBase := base } := by
  have dispatched : (b.unrecorded log).dispatch level f t = (b.dispatch level f t).unrecorded log := by
    cases level <;> rfl
  obtain ⟨base, concluded⟩ := conclude_unrecorded (b.dispatch level f t) log level
    (f.next (b.hart.enter level t) t) ((b.hart.enter level t).ending b.settings.stepRule level t)
  have deed : ((b.unrecorded log).take level f t).deed =
      ((b.take level f t).outcome,
        (b.take level f t).bench.unrecorded { log with virtualBase := base }) := by
    have own := deed_take b level f t
    rw [deed_take, dispatched]
    refine concluded.trans ?_
    rw [← own]
    rfl
  exact ⟨base, congrArg Prod.fst deed, congrArg Prod.snd deed⟩

end Unrecorded

/-- The errors after which a session with a record may go another way: the log is full. -/
def IsLogFull (e : BenchError) : Prop :=
  ∃ capacity, e = .logFull capacity

namespace Unrecorded

variable {b c : Bench}

/-- A word for which the longer log has room fits into the shorter one. -/
theorem append (alike : b.Unrecorded c) (w : Word) :
    (append w b).Agrees Unrecorded IsLogFull (append w c) := by
  obtain ⟨log, rfl, capacity, shorter⟩ := alike
  intro avoids
  unfold Bench.append at avoids ⊢
  cases room : b.log.append? w with
  | none =>
    rw [room] at avoids
    exact absurd ⟨b.log.capacity, rfl⟩ (avoids _ rfl)
  | some longer =>
    obtain ⟨free, rfl⟩ := Log.append?_eq_some room
    have room' : log.append? w = some { log with words := log.words ++ [w] } := by
      apply Log.append?_of_lt
      rw [capacity]
      omega
    have alike' : (log.words ++ [w]).length ≤ (b.log.words ++ [w]).length := by
      rw [List.length_append, List.length_append]
      exact Nat.add_le_add_right shorter 1
    dsimp only [unrecorded]
    rw [room']
    exact ⟨rfl, _, rfl, capacity, alike'⟩

/-- The log that an admission hands to the handler is at least as long as that of the bench. -/
theorem of_admits {t : Trap} {a : Admission} (admits : b.Admits t a) (alike : b.Unrecorded c) :
    Unrecorded { b with log := a.log } c := by
  obtain ⟨log, rfl, capacity, shorter⟩ := alike
  refine ⟨log, rfl, ?_⟩
  rcases logged?_eq_some admits.logged with ⟨same, -⟩ | ⟨appended, -⟩
  · rw [same]
    exact ⟨capacity, shorter⟩
  · obtain ⟨-, longer⟩ := Log.append?_eq_some appended
    rw [longer]
    refine ⟨capacity, ?_⟩
    rw [List.length_append]
    omega

theorem take (alike : b.Unrecorded c) (level : TrapLevel) (f : TrapFrame) (t : Trap) :
    (c.take level f t).outcome = (b.take level f t).outcome ∧
      (b.take level f t).bench.Unrecorded (c.take level f t).bench := by
  obtain ⟨log, rfl, capacity, shorter⟩ := alike
  obtain ⟨base, outcome, bench⟩ := take_unrecorded b log level f t
  obtain ⟨moved, kept⟩ := (take_settles b level f t).keeps.log
  refine ⟨outcome, { log with virtualBase := base }, bench, ?_⟩
  rw [kept]
  exact ⟨capacity, shorter⟩

/-- Without the record there is one reason less to refuse a trap. -/
theorem raise (alike : b.Unrecorded c) (t : Trap) :
    (raise t b).Agrees Unrecorded IsLogFull (raise t c) := by
  intro avoids
  cases admission : b.admission t with
  | error e =>
    have refused : c.admission t = .error e := by
      obtain ⟨log, rfl, -⟩ := alike
      rw [raise_of_refusal admission] at avoids
      rw [admission_eq_error_iff] at admission ⊢
      cases admission with
      | halted ended => exact .halted ended
      | nested busy => exact .nested busy
      | noHandler idle absent => exact .noHandler (b := b.unrecorded log) idle absent
      | logFull => exact absurd ⟨_, rfl⟩ (avoids _ rfl)
    rw [raise_of_refusal admission, raise_of_refusal refused]
    exact ⟨rfl, alike⟩
  | ok a =>
    have admits := admission_eq_ok_iff.mp admission
    have admitted : c.admission t = .ok { a with log := c.log } := by
      obtain ⟨log, rfl, -⟩ := alike
      exact admission_eq_ok_iff.mpr ⟨admits.idle, admits.level, admits.frame, rfl⟩
    obtain ⟨outcome, bench⟩ := (of_admits admits alike).take a.level a.frame t
    rw [raise_of_admission admission, raise_of_admission admitted]
    exact ⟨congrArg Except.ok outcome.symm, bench⟩

theorem likeness : Likeness Unrecorded IsLogFull where
  hart_eq := by
    rintro b c ⟨log, rfl, -⟩
    rfl
  setHart := by
    rintro b c ⟨log, rfl, shorter⟩ hart
    exact ⟨log, rfl, shorter⟩
  install := by
    rintro b c ⟨log, rfl, shorter⟩ level base vectoring
    refine ⟨log, ?_, ?_⟩
    · cases level <;> rfl
    · cases level <;> exact shorter
  close := by
    rintro b c ⟨log, rfl, shorter⟩
    exact ⟨log, rfl, shorter⟩
  rebase := by
    rintro b c ⟨log, rfl, shorter⟩ cursor
    exact ⟨log.rebase cursor, rfl, shorter⟩
  append := append
  raise := raise

end Unrecorded

/-- Two fresh benches whose settings differ in the record of causes answer alike for as long as the log
of the recording one has room, and they end alike in all but their logs. The words of the silent log
are those of the recording log without the causes. -/
theorem recording_unobserved (settings : Settings) (os : List Operation)
    (direct : ∀ o ∈ os, o.IsDirect)
    (room : ∀ reply ∈ Operation.replies os (start { settings with recordCauses := true }),
      ∀ capacity, reply.result ≠ .error (.logFull capacity)) :
    let recording := start { settings with recordCauses := true }
    let silent := start { settings with recordCauses := false }
    let b := Operation.session os recording
    let c := Operation.session os silent
    (Operation.replies os recording).map (·.result) = (Operation.replies os silent).map (·.result) ∧
      c.hart = b.hart ∧ c.machineFrame = b.machineFrame ∧ c.supervisorFrame = b.supervisorFrame ∧
      c.phase = b.phase ∧ c.defaultVector = b.defaultVector ∧
      Operation.history os recording = Operation.history os silent ∧
      b.log.words = (Operation.history os recording).filterMap (·.word? true) ∧
      c.log.words = (Operation.history os recording).filterMap (·.word? false) := by
  intro recording silent b c
  have alike : recording.Unrecorded silent := ⟨silent.log, rfl, rfl, Nat.le_refl _⟩
  have avoids : ∀ reply ∈ Operation.replies os recording, reply.Avoids IsLogFull := by
    rintro reply member e refused ⟨capacity, rfl⟩
    exact room reply member capacity refused
  obtain ⟨results, history, log, rest, -⟩ := Unrecorded.likeness.session direct alike avoids
  have words : b.log.words = (Operation.history os recording).filterMap (·.word? true) :=
    (Operation.steps_history os (fits_start _)).logs.words
  have words' : c.log.words = (Operation.history os recording).filterMap (·.word? false) := by
    rw [history]
    exact (Operation.steps_history os (fits_start _)).logs.words
  have same : c = b.unrecorded log := rest
  rw [same]
  exact ⟨results, rfl, rfl, rfl, rfl, rfl, history, words, same ▸ words'⟩

/-- The log has room for one word before its page ends. -/
def pageEnd : Settings := { virtualLogBase := 0x80001FF8 }

/-- A program that moves to another page and then logs a word. -/
def crossing : List Operation :=
  [.install .machine 0x80000100 .vectored, .call { op := 3, page := 0x40000000, pageType := 0 },
    .append 7]

/-- With the cause recorded the cursor has left its page when the call moves it. So the two runs end
with different virtual bases, and alike in the hart. -/
theorem recording_unobserved_crossing :
    (∀ o ∈ crossing, o.IsDirect) ∧
      (∀ reply ∈ Operation.replies crossing (start { pageEnd with recordCauses := true }),
        ∀ capacity, reply.result ≠ .error (.logFull capacity)) ∧
      let b := Operation.session crossing (start { pageEnd with recordCauses := true })
      let c := Operation.session crossing (start { pageEnd with recordCauses := false })
      c.hart = b.hart ∧ b.log.words = [11, 7] ∧ c.log.words = [7] ∧
        b.log.virtualBase = 0x3FFFFFF8 ∧ c.log.virtualBase = 0x40000FF8 := by
  have direct : ∀ o ∈ crossing, o.IsDirect := by
    simp [crossing, Operation.IsDirect]
  have accepted : (Operation.replies crossing
      (start { pageEnd with recordCauses := true })).all (·.result.toBool) = true := by
    decide
  have room : ∀ reply ∈ Operation.replies crossing (start { pageEnd with recordCauses := true }),
      ∀ capacity, reply.result ≠ .error (.logFull capacity) := by
    intro reply member capacity full
    have done := List.all_eq_true.mp accepted reply member
    rw [full] at done
    cases done
  obtain ⟨-, hart, -, -, -, -, -, words, words'⟩ := recording_unobserved pageEnd crossing direct room
  refine ⟨direct, room, hart, ?_, ?_, by decide, by decide⟩
  · rw [words]
    decide
  · rw [words']
    decide

end HartTraps.Bench
