import Mathlib.Data.List.Induction
import HartTraps.Proofs.TestTable.Entry
import HartTraps.TestTable.Walk

/-!
# Tables work wherever the program is mapped

The tag of a case is an address in the program, so a program that is mapped elsewhere comes with other tags.
What is left of a tag is its label: a label map looks up by label and keeps what was inserted last under it
(`Labels.find?_ofList_eq_some_iff`), the cases that need no memory do not look at their tags at all, and an
unknown label is reported as such. So tables with the same operands and labels are walked alike
(`TestTable.walk_of_alike`), provided that the probe looks no closer at a tag either.
-/

namespace HartTraps

/-- Tags have the same label exactly if they agree in their low 21 bits. -/
theorem Label.ofTag_eq_iff {tag other : Word} :
    Label.ofTag tag = Label.ofTag other ↔ ∀ k < 21, tag.getLsbD k = other.getLsbD k := by
  unfold Label.ofTag
  constructor
  · intro same k low
    have bits := congrArg (·.getLsbD k) same
    simpa [low] using bits
  · intro same
    apply BitVec.eq_of_getLsbD_eq
    intro k low
    rw [BitVec.getLsbD_setWidth, BitVec.getLsbD_setWidth, same k low]

/-! ## Looking up a label -/

namespace Labels

theorem find?_congr (labels : Labels) {tag other : Word} (same : Label.ofTag tag = Label.ofTag other) :
    labels.find? tag = labels.find? other := by
  unfold find?
  rw [same]

/-- A label is looked up among the insertions from the last one on. -/
theorem find?_ofList (pairs : List (Word × Routine)) (tag : Word) :
    (ofList pairs).find? tag =
      (pairs.reverse.find? fun p => Label.ofTag p.1 = Label.ofTag tag).map (·.2) := by
  unfold ofList
  induction pairs using List.reverseRecOn with
  | nil => rfl
  | append_singleton pairs last ih =>
    rw [List.foldl_append, List.foldl_cons, List.foldl_nil, find?_insert, ih, List.reverse_append,
      List.reverse_singleton, List.singleton_append, List.find?_cons]
    by_cases here : Label.ofTag last.1 = Label.ofTag tag
    · simp [here]
    · simp [here]

/-- A tag names the routine that was inserted last under its label. -/
theorem find?_ofList_eq_some_iff {pairs : List (Word × Routine)} {tag : Word} {routine : Routine} :
    (ofList pairs).find? tag = some routine ↔
      ∃ before own after, pairs = before ++ (own, routine) :: after ∧
        Label.ofTag own = Label.ofTag tag ∧ ∀ p ∈ after, Label.ofTag p.1 ≠ Label.ofTag tag := by
  rw [find?_ofList, Option.map_eq_some_iff]
  constructor
  · rintro ⟨⟨own, _⟩, found, rfl⟩
    obtain ⟨same, after, before, split, passed⟩ := List.find?_eq_some_iff_append.mp found
    refine ⟨before.reverse, own, after.reverse, ?_, of_decide_eq_true same, fun p member => ?_⟩
    · have whole := congrArg List.reverse split
      simpa using whole
    · simpa using passed p (List.mem_reverse.mp member)
  · rintro ⟨before, own, after, rfl, same, passed⟩
    refine ⟨(own, routine), List.find?_eq_some_iff_append.mpr
      ⟨decide_eq_true same, after.reverse, before.reverse, by simp, fun p member => ?_⟩, rfl⟩
    simpa using passed p (List.mem_reverse.mp member)

end Labels

/-! ## Like cases -/

/-- Cases with the same operands, whose tags agree in their low 21 bits. -/
structure TestCase.Alike (case other : TestCase) : Prop where
  address : case.address = other.address
  value : case.value = other.value
  tag : ∀ k < 21, case.tag.getLsbD k = other.tag.getLsbD k

namespace TestCase.Alike

variable {case other : TestCase} (alike : case.Alike other)

include alike

theorem label : case.label = other.label :=
  Label.ofTag_eq_iff.mpr alike.tag

/-- Like cases have the same entry point, so a probe may jump there. -/
theorem entryIn (pc : Word) : case.entryIn pc = other.entryIn pc := by
  unfold TestCase.entryIn
  rw [alike.label]

/-- A routine that needs no memory does not look at the tag. -/
theorem routine?_eq (routine : Routine) :
    Bench.routine? case routine = Bench.routine? other routine := by
  obtain ⟨address, value, -⟩ := alike
  obtain ⟨_, _, _⟩ := case
  obtain ⟨_, _, _⟩ := other
  cases address
  cases value
  cases routine <;> rfl

end TestCase.Alike

/-- Replies with the same answer that leave the same state. The notes may differ. -/
structure Reply.Alike {σ α : Type} (reply other : Reply σ α) : Prop where
  result : reply.result = other.result
  state : reply.state = other.state

/-- A probe that does not look at the bits of a tag above its label. -/
def Probe.Unplaced {σ : Type} (probe : Probe σ) : Prop :=
  ∀ case other, TestCase.Alike case other → ∀ routine s,
    (probe case routine s).Alike (probe other routine s)

/-! ## Like tables -/

namespace TestTable

variable {σ : Type} {probe : Probe σ} (unplaced : probe.Unplaced)

include unplaced

theorem runCase_alike {case other : TestCase} (alike : case.Alike other) (routine : Routine)
    (s : Bench × σ) : (runCase probe case routine s).Alike (runCase probe other routine s) := by
  have same := alike.routine?_eq routine
  cases own : Bench.routine? case routine with
  | none =>
    rw [runCase_of_probe own, runCase_of_probe (same.symm.trans own)]
    exact unplaced case other alike routine s
  | some run =>
    rw [runCase_of_own own, runCase_of_own (same.symm.trans own)]
    exact ⟨rfl, rfl⟩

/-- Two walks of like tables go side by side: at each case both have ended, both find no routine, both fail, or
both go on from the same state. -/
theorem walkFrom_alike (labels : Labels) {cases others : List TestCase}
    (alike : List.Forall₂ TestCase.Alike cases others) (index : Nat) (s : Bench × σ) :
    (walkFrom labels probe index cases s).Alike (walkFrom labels probe index others s) := by
  induction alike generalizing index s with
  | nil => exact ⟨rfl, rfl⟩
  | @cons case other _ _ head _ ih =>
    cases running : s.1.verdict? with
    | some v =>
      rw [walkFrom_of_verdict running, walkFrom_of_verdict running]
      exact ⟨rfl, rfl⟩
    | none =>
      have same : labels.find? other.tag = labels.find? case.tag := labels.find?_congr head.label.symm
      cases known : labels.find? case.tag with
      | none =>
        rw [walkFrom_of_unknown running known, walkFrom_of_unknown running (same.trans known), head.label]
        exact ⟨rfl, rfl⟩
      | some routine =>
        obtain ⟨result, state⟩ := runCase_alike unplaced head routine s
        cases answer : (runCase probe case routine s).result with
        | error e =>
          rw [walkFrom_of_error running known answer,
            walkFrom_of_error running (same.trans known) (result.symm.trans answer)]
          exact ⟨rfl, state⟩
        | ok _ =>
          rw [walkFrom_of_ok running known answer,
            walkFrom_of_ok running (same.trans known) (result.symm.trans answer), ← state]
          obtain ⟨restResult, restState⟩ := ih (index + 1) (runCase probe case routine s).state
          exact ⟨restResult, restState⟩

omit unplaced

/-- Tables with the same operands, whose tags agree in their low 21 bits, give the same answer and leave the same
bench and the same state of the probe, whatever the labels and wherever the walk starts, if the probe does not
look at the other bits of a tag. Of the tags under which routines were inserted these bits do not matter
either: a tag names the routine that was inserted last under a tag with the same low 21 bits. -/
theorem walk_of_alike :
    (∀ (labels : Labels) (probe : Probe σ) (cases others : List TestCase) (s : Bench × σ),
      probe.Unplaced → List.Forall₂ TestCase.Alike cases others →
      (walk labels probe cases s).result = (walk labels probe others s).result ∧
        (walk labels probe cases s).state = (walk labels probe others s).state) ∧
    ∀ (pairs : List (Word × Routine)) (tag : Word) (routine : Routine),
      (Labels.ofList pairs).find? tag = some routine ↔
        ∃ before own after, pairs = before ++ (own, routine) :: after ∧
          (∀ k < 21, own.getLsbD k = tag.getLsbD k) ∧
          ∀ p ∈ after, ¬∀ k < 21, p.1.getLsbD k = tag.getLsbD k := by
  constructor
  · intro labels probe cases others s unplaced alike
    obtain ⟨result, state⟩ := walkFrom_alike unplaced labels alike 0 s
    exact ⟨result, state⟩
  · intro pairs tag routine
    simp only [← Label.ofTag_eq_iff]
    exact Labels.find?_ofList_eq_some_iff

/-- A probe that keeps a list of the entry points to which it was asked to jump. -/
def jumping : Probe (List Word) := fun case _ s =>
  ⟨.ok (), (s.1, s.2 ++ [case.entryIn s.1.hart.pc]), []⟩

theorem jumping_unplaced : jumping.Unplaced := by
  intro case other alike routine s
  refine ⟨rfl, ?_⟩
  show (s.1, s.2 ++ [case.entryIn s.1.hart.pc]) = (s.1, s.2 ++ [other.entryIn s.1.hart.pc])
  rw [alike.entryIn]

/-- A label with two routines, the second one inserted under a tag of the program after a move. -/
def relabelled : List (Word × Routine) :=
  [(0x10, .load .bits64), (0x80200010, .fetch), (0x20, .finish)]

/-- A table and the same table for a program that is mapped at 1 GiB are walked alike, up to the unknown label at
its end; the label of their first case names the routine that was inserted last. -/
theorem walk_of_alike_moved :
    let near : List TestCase := [⟨0x1000, 3, 0x10⟩, ⟨0, 0, 0x1F0000⟩]
    let far : List TestCase := [⟨0x1000, 3, 0x40000010⟩, ⟨0, 0, 0x401F0000⟩]
    let labels := Labels.ofList relabelled
    let s : Bench × List Word := (.start {}, [])
    List.Forall₂ TestCase.Alike near far ∧
      (walk labels jumping far s).result = .error (.unknownLabel 1 0x1F0000) ∧
      (walk labels jumping far s).state.2 = [0x80000010] ∧
      labels.find? 0x40000010 = some .fetch := by
  intro near far labels s
  obtain ⟨alike, last⟩ := @walk_of_alike (List Word)
  have moved : List.Forall₂ TestCase.Alike near far :=
    .cons ⟨rfl, rfl, by decide⟩ (.cons ⟨rfl, rfl, by decide⟩ .nil)
  obtain ⟨result, state⟩ := alike labels jumping near far s jumping_unplaced moved
  refine ⟨moved, result.symm.trans (by rfl), ?_, (last relabelled _ _).mpr ?_⟩
  · have entered : (walk labels jumping near s).state.2 =
        [TestCase.entryIn ⟨0x1000, 3, 0x10⟩ 0x80000000] := rfl
    rw [← state, entered]
    decide
  · exact ⟨[(0x10, .load .bits64)], 0x80200010, [(0x20, .finish)], rfl, by decide, by decide⟩

end TestTable

end HartTraps
