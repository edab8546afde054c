import HartTraps.Proofs.Session.Phase

/-!
# Walking a test table in parts

A table may be cut at any case: to walk it whole is to walk its first part and then, if the run goes on at
the end of that, the rest (`TestTable.walk_append`). Only the numbers that the walk gives to the cases tell the
two apart: in its reports of unknown labels and in its notes. A number in an error of the probe is not one of
these. What stands after the case with which the run ends is not even looked up.
-/

namespace HartTraps

variable {σ : Type}

/-- A probe that leaves it to the walk to find that the table is used up. -/
def Probe.NeverExhausts (probe : Probe σ) : Prop :=
  ∀ case routine s, (probe case routine s).result ≠ .error .tableExhausted

namespace TestTable

variable {labels : Labels} {probe : Probe σ} {cases : List TestCase} {s : Bench × σ}

/-! ## How a walk ends -/

/-- A verdict is that of the run, which has ended. -/
theorem phase_of_walkFrom_ok {index : Nat} {v : Verdict}
    (answer : (walkFrom labels probe index cases s).result = .ok v) :
    (walkFrom labels probe index cases s).state.1.phase = .halted v := by
  induction cases, s using walk_induction labels probe generalizing index with
  | ended cases s w ended =>
    rw [walkFrom_of_verdict ended] at answer ⊢
    cases answer
    exact Bench.verdict?_eq_some_iff.mp ended
  | exhausted s running =>
    rw [walkFrom_nil running] at answer
    cases answer
  | unknown case cases s running unknown =>
    rw [walkFrom_of_unknown running unknown] at answer
    cases answer
  | failed case cases s routine e running known failed =>
    rw [walkFrom_of_error running known failed] at answer
    cases answer
  | done case cases s routine running known done ih =>
    rw [walkFrom_of_ok running known done] at answer ⊢
    exact ih answer

/-- A case fails because its probe says so, because the log is full, or because a trap is refused. -/
theorem error_of_runCase {case : TestCase} {routine : Routine} {e : BenchError}
    (failed : (runCase probe case routine s).result = .error e) :
    (probe case routine s).result = .error e ∨ e = .logFull s.1.log.capacity ∨
      ∃ b t, Bench.Refuses b t e := by
  cases own : Bench.routine? case routine with
  | none =>
    rw [runCase_of_probe own] at failed
    exact .inl failed
  | some run =>
    rw [runCase_of_own own] at failed
    rcases Bench.error_of_routine own failed with full | ⟨r, refused⟩
    · exact .inr (.inl full)
    · exact .inr (.inr ⟨_, _, Bench.refuses_of_call refused⟩)

/-- All of `cases` are carried out from `s`, and the run goes on where they lead. -/
inductive RunsOut (labels : Labels) (probe : Probe σ) : List TestCase → Bench × σ → Bench × σ → Prop where
  | nil {s : Bench × σ} (running : s.1.verdict? = none) : RunsOut labels probe [] s s
  | cons {case : TestCase} {cases : List TestCase} {s t : Bench × σ} {routine : Routine}
      (running : s.1.verdict? = none) (known : labels.find? case.tag = some routine)
      (done : (runCase probe case routine s).result = .ok ())
      (rest : RunsOut labels probe cases (runCase probe case routine s).state t) :
      RunsOut labels probe (case :: cases) s t

theorem RunsOut.running {t : Bench × σ} (out : RunsOut labels probe cases s t) :
    t.1.verdict? = none := by
  induction out with
  | nil running => exact running
  | cons _ _ _ _ ih => exact ih

/-- What stands after such cases is walked from where they lead. -/
theorem RunsOut.walkFrom_append {t : Bench × σ} (out : RunsOut labels probe cases s t) (index : Nat)
    (rest : List TestCase) :
    let next := walkFrom labels probe (index + cases.length) rest t
    (walkFrom labels probe index (cases ++ rest) s).result = next.result ∧
      (walkFrom labels probe index (cases ++ rest) s).state = next.state ∧
      (walkFrom labels probe index (cases ++ rest) s).notes =
        (walkFrom labels probe index cases s).notes ++ next.notes := by
  induction out generalizing index with
  | nil running =>
    rw [walkFrom_nil running]
    exact ⟨rfl, rfl, rfl⟩
  | cons running known done _ ih =>
    rw [List.cons_append, walkFrom_of_ok running known done, walkFrom_of_ok running known done,
      List.length_cons, Nat.add_comm _ 1, ← Nat.add_assoc]
    obtain ⟨result, state, notes⟩ := ih (index + 1)
    refine ⟨result, state, ?_⟩
    dsimp only
    rw [notes, List.cons_append, List.append_assoc]

section NeverExhausts

variable (never : probe.NeverExhausts)

include never

/-- No case answers that the table is used up: a call has other reasons to fail. -/
theorem runCase_ne_exhausted (case : TestCase) (routine : Routine) (s : Bench × σ) :
    (runCase probe case routine s).result ≠ .error .tableExhausted := by
  intro exhausted
  rcases error_of_runCase exhausted with reported | full | ⟨b, t, refuses⟩
  · exact never case routine s reported
  · cases full
  · cases refuses

/-- If the table is used up, all its cases have been carried out. -/
theorem runsOut_of_exhausted {index : Nat}
    (answer : (walkFrom labels probe index cases s).result = .error .tableExhausted) :
    RunsOut labels probe cases s (walkFrom labels probe index cases s).state := by
  induction cases, s using walk_induction labels probe generalizing index with
  | ended cases s v ended =>
    rw [walkFrom_of_verdict ended] at answer
    cases answer
  | exhausted s running =>
    rw [walkFrom_nil running]
    exact .nil running
  | unknown case cases s running unknown =>
    rw [walkFrom_of_unknown running unknown] at answer
    cases answer
  | failed case cases s routine e running known failed =>
    rw [walkFrom_of_error running known failed] at answer
    cases answer
    exact absurd failed (runCase_ne_exhausted never case routine s)
  | done case cases s routine running known done ih =>
    rw [walkFrom_of_ok running known done] at answer ⊢
    exact .cons running known done (ih answer)

end NeverExhausts

/-- After a walk that ends in another way nothing more is walked. -/
theorem walkFrom_append_of_ne {index : Nat}
    (other : (walkFrom labels probe index cases s).result ≠ .error .tableExhausted)
    (rest : List TestCase) :
    walkFrom labels probe index (cases ++ rest) s = walkFrom labels probe index cases s := by
  induction cases, s using walk_induction labels probe generalizing index with
  | ended cases s v ended => rw [walkFrom_of_verdict ended, walkFrom_of_verdict ended]
  | exhausted s running =>
    rw [walkFrom_nil running] at other
    exact absurd rfl other
  | unknown case cases s running unknown =>
    rw [List.cons_append, walkFrom_of_unknown running unknown, walkFrom_of_unknown running unknown]
  | failed case cases s routine e running known failed =>
    rw [List.cons_append, walkFrom_of_error running known failed, walkFrom_of_error running known failed]
  | done case cases s routine running known done ih =>
    rw [walkFrom_of_ok running known done] at other
    rw [List.cons_append, walkFrom_of_ok running known done, walkFrom_of_ok running known done, ih other]

/-! ## Numbers of cases -/

/-- A walk of `cases` from `s` carries out the cases before number `i`, which is `case` and whose label
names no routine. -/
inductive StopsAt (labels : Labels) (probe : Probe σ) :
    List TestCase → Bench × σ → Nat → TestCase → Prop where
  | here {case : TestCase} {cases : List TestCase} {s : Bench × σ} (running : s.1.verdict? = none)
      (unknown : labels.find? case.tag = none) : StopsAt labels probe (case :: cases) s 0 case
  | later {first : TestCase} {cases : List TestCase} {s : Bench × σ} {routine : Routine} {i : Nat}
      {case : TestCase} (running : s.1.verdict? = none) (known : labels.find? first.tag = some routine)
      (done : (runCase probe first routine s).result = .ok ())
      (rest : StopsAt labels probe cases (runCase probe first routine s).state i case) :
      StopsAt labels probe (first :: cases) s (i + 1) case

/-- A walk does the same whatever number its first case has. -/
theorem state_walkFrom (index : Nat) :
    (walkFrom labels probe index cases s).state = (walk labels probe cases s).state := by
  unfold walk
  generalize 0 = start
  induction cases, s using walk_induction labels probe generalizing index start with
  | ended cases s v ended => rw [walkFrom_of_verdict ended, walkFrom_of_verdict ended]
  | exhausted s running => rw [walkFrom_nil running, walkFrom_nil running]
  | unknown case cases s running unknown =>
    rw [walkFrom_of_unknown running unknown, walkFrom_of_unknown running unknown]
  | failed case cases s routine e running known failed =>
    rw [walkFrom_of_error running known failed, walkFrom_of_error running known failed]
  | done case cases s routine running known done ih =>
    rw [walkFrom_of_ok running known done, walkFrom_of_ok running known done]
    exact ih (index + 1) (start + 1)

/-- An unknown label is reported at the number of its case. -/
theorem result_walkFrom_of_stopsAt {i : Nat} {case : TestCase}
    (stops : StopsAt labels probe cases s i case) (index : Nat) :
    (walkFrom labels probe index cases s).result = .error (.unknownLabel (index + i) case.label) := by
  induction stops generalizing index with
  | here running unknown => rw [walkFrom_of_unknown running unknown, Nat.add_zero]
  | later running known done _ ih =>
    rw [walkFrom_of_ok running known done, ih, Nat.add_assoc, Nat.add_comm 1]

/-- Any other answer does not depend on the numbers. -/
theorem result_walkFrom_of_not_stopsAt (goes : ∀ i case, ¬StopsAt labels probe cases s i case)
    (index : Nat) :
    (walkFrom labels probe index cases s).result = (walk labels probe cases s).result := by
  unfold walk
  generalize 0 = start
  induction cases, s using walk_induction labels probe generalizing index start with
  | ended cases s v ended => rw [walkFrom_of_verdict ended, walkFrom_of_verdict ended]
  | exhausted s running => rw [walkFrom_nil running, walkFrom_nil running]
  | unknown case cases s running unknown => exact absurd (.here running unknown) (goes 0 case)
  | failed case cases s routine e running known failed =>
    rw [walkFrom_of_error running known failed, walkFrom_of_error running known failed]
  | done case cases s routine running known done ih =>
    rw [walkFrom_of_ok running known done, walkFrom_of_ok running known done]
    exact ih (fun i later stops => goes (i + 1) later (.later running known done stops))
      (index + 1) (start + 1)

/-- An unknown label that the walk does not stop at is one that the probe reports. -/
theorem reported_of_not_stopsAt (goes : ∀ i case, ¬StopsAt labels probe cases s i case) {index n : Nat}
    {label : Label} (answer : (walkFrom labels probe index cases s).result = .error (.unknownLabel n label)) :
    ∃ case routine t, (probe case routine t).result = .error (.unknownLabel n label) := by
  induction cases, s using walk_induction labels probe generalizing index with
  | ended cases s v ended =>
    rw [walkFrom_of_verdict ended] at answer
    cases answer
  | exhausted s running =>
    rw [walkFrom_nil running] at answer
    cases answer
  | unknown case cases s running unknown => exact absurd (.here running unknown) (goes 0 case)
  | failed case cases s routine e running known failed =>
    rw [walkFrom_of_error running known failed] at answer
    cases answer
    rcases error_of_runCase failed with reported | full | ⟨b, t, refuses⟩
    · exact ⟨case, routine, s, reported⟩
    · cases full
    · cases refuses
  | done case cases s routine running known done ih =>
    rw [walkFrom_of_ok running known done] at answer
    exact ih (fun i later stops => goes (i + 1) later (.later running known done stops)) answer

/-- A case that is carried out, with the notes that are taken on the way. -/
structure Started where
  case : TestCase
  routine : Routine
  notes : List Note

/-- The notes of a walk that carries out these cases, of which the first has this number. -/
def numbered : Nat → List Started → List Note
  | _, [] => []
  | index, one :: rest =>
    .caseStarted index one.case one.routine :: (one.notes ++ numbered (index + 1) rest)

/-- Which cases are carried out, and what is noted about each, does not depend on the numbers. -/
theorem exists_started (labels : Labels) (probe : Probe σ) (cases : List TestCase) (s : Bench × σ) :
    ∃ started, started.map Started.case <+: cases ∧
      ∀ index, (walkFrom labels probe index cases s).notes = numbered index started := by
  induction cases, s using walk_induction labels probe with
  | ended cases s v ended =>
    exact ⟨[], List.nil_prefix, fun index => by rw [walkFrom_of_verdict ended]; rfl⟩
  | exhausted s running => exact ⟨[], List.nil_prefix, fun index => by rw [walkFrom_nil running]; rfl⟩
  | unknown case cases s running unknown =>
    exact ⟨[], List.nil_prefix, fun index => by rw [walkFrom_of_unknown running unknown]; rfl⟩
  | failed case cases s routine e running known failed =>
    refine ⟨[⟨case, routine, (runCase probe case routine s).notes⟩], List.prefix_append [case] cases, ?_⟩
    intro index
    rw [walkFrom_of_error running known failed, numbered, numbered, List.append_nil]
  | done case cases s routine running known done ih =>
    obtain ⟨started, first, notes⟩ := ih
    refine ⟨⟨case, routine, (runCase probe case routine s).notes⟩ :: started, ?_, fun index => ?_⟩
    · exact List.prefix_cons_inj case |>.mpr first
    · rw [walkFrom_of_ok running known done, numbered, notes]

/-- A table in two parts: if the first part is used up, the rest is walked from where it has led, and an
unknown label in it is reported at its place in the whole table, while an error of the probe stays as it
is. The notes are those of both walks, but the cases of the rest have their numbers in the whole table. In every
other case, and so whenever the first part leaves a run that has ended, nothing of the rest is walked. A verdict
is that of the bench. -/
theorem walk_append (never : probe.NeverExhausts) (labels : Labels) (first rest : List TestCase)
    (s : Bench × σ) :
    let a := walk labels probe first s
    let b := walk labels probe rest a.state
    let whole := walk labels probe (first ++ rest) s
    (a.result = .error .tableExhausted →
      whole.state = b.state ∧
      (∀ i case, StopsAt labels probe rest a.state i case →
        b.result = .error (.unknownLabel i case.label) ∧
          whole.result = .error (.unknownLabel (first.length + i) case.label)) ∧
      ((∀ i case, ¬StopsAt labels probe rest a.state i case) →
        whole.result = b.result ∧
          ∀ i label, b.result = .error (.unknownLabel i label) →
            ∃ case routine t, (probe case routine t).result = .error (.unknownLabel i label)) ∧
      ∃ started, started.map Started.case <+: rest ∧ b.notes = numbered 0 started ∧
        whole.notes = a.notes ++ numbered first.length started) ∧
      (a.result ≠ .error .tableExhausted → whole = a) ∧
      (∀ v, a.state.1.phase = .halted v → whole = a) ∧
      ∀ v, whole.result = .ok v → whole.state.1.phase = .halted v := by
  intro a b whole
  have cut (other : a.result ≠ .error .tableExhausted) : whole = a := walkFrom_append_of_ne other rest
  refine ⟨?used, cut, ?ended, fun v => phase_of_walkFrom_ok⟩
  case used =>
    intro used
    obtain ⟨result, state, notes⟩ := (runsOut_of_exhausted never used).walkFrom_append 0 rest
    rw [Nat.zero_add] at result state notes
    obtain ⟨started, leading, noted⟩ := exists_started labels probe rest a.state
    refine ⟨state.trans (state_walkFrom _), ?_, ?_, started, leading, noted 0,
      notes.trans (congrArg (a.notes ++ ·) (noted first.length))⟩
    · intro i case stops
      have own := result_walkFrom_of_stopsAt stops 0
      rw [Nat.zero_add] at own
      exact ⟨own, result.trans (result_walkFrom_of_stopsAt stops _)⟩
    · intro goes
      exact ⟨result.trans (result_walkFrom_of_not_stopsAt goes _), fun i label =>
        reported_of_not_stopsAt goes⟩
  case ended =>
    intro v halted
    apply cut
    intro used
    have running : a.state.1.verdict? = none := (runsOut_of_exhausted never used).running
    rw [Bench.verdict?_eq_some_iff.mpr halted] at running
    cases running

/-- A probe that takes a load page fault for each case and counts its cases. -/
def faulting : Probe Nat := fun _ _ s =>
  let r := Bench.raise (.exception 13 s.1.hart.mode s.1.hart.pc) s.1
  ⟨r.result.map fun _ => (), (r.state, s.2 + 1), r.notes⟩

theorem faulting_neverExhausts : faulting.NeverExhausts := by
  intro case routine s exhausted
  cases Bench.refuses_of_raise (Run.map_eq_error.mp exhausted)

/-- A bench whose traps are taken by Machine mode, before the probe was asked for anything. -/
def installed : Bench × Nat :=
  ((Bench.start {}).withHandler .machine 0x80000100 .vectored, 0)

/-- A move to Supervisor mode and a load. -/
def reading : List TestCase :=
  [⟨0, 0, 64⟩, ⟨0x10, 0, 16⟩]

/-- A move to User mode, a case with an unknown label and the end of the run. -/
def straying : List TestCase :=
  [⟨0, 0, 68⟩, ⟨0, 0, 0x1F0000⟩, ⟨0, 0, 36⟩]

/-- The unknown label is that of number 1 in its part and of number 3 in the whole table; the probe has
been asked for one load. -/
theorem walk_append_faulting :
    (walk .standard faulting reading installed).result = .error .tableExhausted ∧
      (walk .standard faulting (reading ++ straying) installed).result =
        .error (.unknownLabel 3 0x1F0000) ∧
      (walk .standard faulting (reading ++ straying) installed).state.2 = 1 := by
  have used : (walk .standard faulting reading installed).result = .error .tableExhausted := by rfl
  have stops : StopsAt .standard faulting straying (walk .standard faulting reading installed).state 1
      ⟨0, 0, 0x1F0000⟩ :=
    .later (by rfl) (show Labels.standard.find? 68 = some (.goto .user) by rfl) (by rfl)
      (.here (by rfl) (by rfl))
  obtain ⟨append, -, -, -⟩ := walk_append faulting_neverExhausts .standard reading straying installed
  obtain ⟨state, unknown, -⟩ := append used
  refine ⟨used, (unknown 1 _ stops).2, ?_⟩
  rw [state]
  rfl

/-- A probe that answers every case with an unknown label of its own. -/
def reporting : Probe Nat := fun _ _ s => ⟨.error (.unknownLabel 0 0x10), s, []⟩

theorem reporting_neverExhausts : reporting.NeverExhausts := by
  intro case routine s exhausted
  have same : BenchError.unknownLabel 0 0x10 = .tableExhausted := Except.error.inj exhausted
  cases same

/-- An error with the number of its case counted from further up. -/
def later (n : Nat) : BenchError → BenchError
  | .unknownLabel i label => .unknownLabel (i + n) label
  | e => e

/-- A case that turns paging off. -/
def unpaging : TestCase := ⟨0, 0, 0x28⟩

/-- Two things tell the whole table from its parts: an unknown label that the probe reports keeps its number,
and the notes on the cases of the second part do not. -/
theorem parts_of_walk_differ :
    ((walk .standard reporting [⟨0, 0, 64⟩] installed).result = .error .tableExhausted ∧
      (walk .standard reporting [⟨0, 0, 16⟩]
        (walk .standard reporting [⟨0, 0, 64⟩] installed).state).result = .error (.unknownLabel 0 0x10) ∧
      (walk .standard reporting [⟨0, 0, 64⟩, ⟨0, 0, 16⟩] installed).result = .error (.unknownLabel 0 0x10)) ∧
    ((walk .standard reporting [unpaging] installed).result = .error .tableExhausted ∧
      (walk .standard reporting [unpaging] installed).notes = [.caseStarted 0 unpaging (.setPaging .bare)] ∧
      (walk .standard reporting [unpaging, unpaging] installed).notes =
        [.caseStarted 0 unpaging (.setPaging .bare), .caseStarted 1 unpaging (.setPaging .bare)]) ∧
    (¬∀ (probe : Probe Nat), probe.NeverExhausts →
      ∀ (labels : Labels) (first rest : List TestCase) (s : Bench × Nat),
        (walk labels probe first s).result = .error .tableExhausted →
          (walk labels probe (first ++ rest) s).result =
            (walk labels probe rest (walk labels probe first s).state).result.mapError (later first.length)) ∧
    ¬∀ (probe : Probe Nat), probe.NeverExhausts →
      ∀ (labels : Labels) (first rest : List TestCase) (s : Bench × Nat),
        (walk labels probe first s).result = .error .tableExhausted →
          (walk labels probe (first ++ rest) s).notes =
            (walk labels probe first s).notes ++
              (walk labels probe rest (walk labels probe first s).state).notes := by
  refine ⟨⟨by rfl, by rfl, by rfl⟩, ⟨by rfl, by rfl, by rfl⟩, fun law => ?_, fun law => ?_⟩
  · have shifted := law reporting reporting_neverExhausts .standard [⟨0, 0, 64⟩] [⟨0, 0, 16⟩] installed (by rfl)
    have same : (Except.error (.unknownLabel 0 0x10) : Except BenchError Verdict) =
        .error (.unknownLabel 1 0x10) := shifted
    cases same
  · have noted := law reporting reporting_neverExhausts .standard [unpaging] [unpaging] installed (by rfl)
    have same : [Note.caseStarted 0 unpaging (.setPaging .bare), .caseStarted 1 unpaging (.setPaging .bare)] =
        [.caseStarted 0 unpaging (.setPaging .bare), .caseStarted 0 unpaging (.setPaging .bare)] := noted
    cases same

end TestTable

end HartTraps
