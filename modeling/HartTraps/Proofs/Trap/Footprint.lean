import HartTraps.Proofs.Trap.Admission
import HartTraps.Proofs.Trap.Ending
import HartTraps.Proofs.Trap.Outcome
import HartTraps.Proofs.Trap.Settle

/-!
# What a trap writes

An accepted trap writes the registers that describe it to its level, the level's field of the status
register and the level's frame. The general registers and the virtual view of the log stay as they are
unless the trap is a call for another page. Such a call uses up its request and, if the page has a known
size, takes the scratch registers and the cursor of the log along. `Bench.Footprint` lists what may
change; `footprint_of_raise` says that nothing else does.
-/

namespace HartTraps

/-- A call for another mode, in another page. -/
def Architecture.AsksToMove (h : Hart) (t : Trap) : Prop :=
  isInterrupt t = false ∧ code t ∈ [8, 9, 11] ∧ (h.read .a0).toNat ∈ [2, 3, 4] ∧ h.read .a1 ≠ 0

instance (h : Hart) (t : Trap) : Decidable (Architecture.AsksToMove h t) :=
  inferInstanceAs (Decidable (_ ∧ _ ∧ _ ∧ _))

namespace Bench

/-- What changes from `b` to `c` lies within what the trap may write at its level. -/
structure Footprint (level : TrapLevel) (t : Trap) (b c : Bench) : Prop where
  csrs : ∀ a, a ∉ [level.csrs.pc, level.csrs.cause, level.csrs.value, .mstatus] →
    c.hart.csrs.read a = b.hart.csrs.read a
  status : c.hart.csrs.read .mstatus &&& ~~~CsrFile.previousField level =
    b.hart.csrs.read .mstatus &&& ~~~CsrFile.previousField level
  otherLevel : ∀ other, other ≠ level → c.frame? other = b.frame? other ∧
    ∀ a ∈ [other.csrs.vector, other.csrs.pc, other.csrs.cause, other.csrs.value],
      c.hart.csrs.read a = b.hart.csrs.read a
  control : ∀ a ∈ [.medeleg, .mideleg, .mtvec, .stvec, .satp],
    c.hart.csrs.read a = b.hart.csrs.read a
  settings : c.settings = b.settings
  defaultVector : c.defaultVector = b.defaultVector
  registers : ¬Architecture.AsksToMove b.hart t → c.hart.registers = b.hart.registers
  request : Architecture.AsksToMove b.hart t → c.hart.read .a1 = 0 ∧ c.hart.read .a2 = 0
  scratch : 3 < (b.hart.read .a2).toNat →
    c.hart.read .ra = b.hart.read .ra ∧ c.hart.read .t0 = b.hart.read .t0
  slots : ∀ r, r ∉ [Register.ra, .t0, .a1, .a2] → c.hart.registers.slot r = b.hart.registers.slot r
  words : c.log.words = b.log.words ++ if b.settings.recordCauses then [t.cause.raw] else []
  region : c.log.capacity = b.log.capacity ∧ c.log.physicalBase = b.log.physicalBase
  virtualBase : ¬(Architecture.AsksToMove b.hart t ∧ (b.hart.read .a2).toNat ≤ 3) →
    c.log.virtualBase = b.log.virtualBase

end Bench

/-! ## Which endings move -/

/-- A handler serves a call if the trap is an exception with the code of one. -/
theorem response_eq_serveCall_iff {t : Trap} {vectoring : Vectoring} :
    t.cause.response vectoring = .serveCall ↔
      Architecture.isInterrupt t = false ∧ Architecture.code t ∈ [8, 9, 11] := by
  cases kind : Architecture.isInterrupt t with
  | true =>
    unfold Cause.response
    rw [isInterrupt_eq, if_pos kind]
    constructor
    · intro served
      cases vectoring with
      | direct => cases served
      | vectored =>
        dsimp only at served
        split at served <;> cases served
    · rintro ⟨⟨⟩, -⟩
  | false =>
    rw [response_exception kind]
    generalize Architecture.code t = code
    match code with
    | 0 | 1 | 2 | 3 | 4 | 5 | 6 | 7 | 8 | 9 | 10 | 11 | 12 | 13 | 14 | 15 => decide
    | code + 16 => simp

/-- The move that an ending carries out. -/
def Ending.move? : Ending → Option Move
  | moved _ move _ => some move
  | _ => none

namespace Hart

/-- The move that the argument registers ask for. -/
def requestedMove (h : Hart) : Move :=
  { page := h.read .a1, pageType := h.read .a2 }

theorem move?_callEnding (h : Hart) (level : TrapLevel) (next : Word) :
    (h.callEnding level next).move? =
      if (h.read .a0).toNat ∈ [2, 3, 4] ∧ h.read .a1 ≠ 0 then some h.requestedMove else none := by
  unfold callEnding CallOp.ofCode?
  generalize (h.read .a0).toNat = op
  match op with
  | 0 | 1 => rfl
  | 2 | 3 | 4 =>
    show (if h.read .a1 = 0 then Ending.back _ next else .moved _ h.requestedMove next).move? = _
    by_cases stays : h.read .a1 = 0
    · rw [if_pos stays, if_neg (fun asks => asks.2 stays)]
      rfl
    · rw [if_neg stays, if_pos ⟨by decide, stays⟩]
      rfl
  | op + 5 => simp [Ending.move?]

/-- A handler moves the program if it serves a call that asks for it. -/
theorem move?_ending (h : Hart) (rule : StepRule) (level : TrapLevel) (t : Trap) :
    (h.ending rule level t).move? =
      if Architecture.AsksToMove h t then some h.requestedMove else none := by
  have asks : Architecture.AsksToMove h t ↔
      t.cause.response (.ofVector (h.csrs.read level.csrs.vector)) = .serveCall ∧
        (h.read .a0).toNat ∈ [2, 3, 4] ∧ h.read .a1 ≠ 0 := by
    rw [response_eq_serveCall_iff, and_assoc]
    rfl
  unfold ending
  dsimp only
  cases response : t.cause.response (.ofVector (h.csrs.read level.csrs.vector)) with
  | serveCall =>
    rw [response] at asks
    rw [move?_callEnding]
    by_cases moves : Architecture.AsksToMove h t
    · rw [if_pos moves, if_pos (asks.mp moves).2]
    · rw [if_neg moves, if_neg (fun called => moves (asks.mpr ⟨rfl, called⟩))]
  | _ =>
    rw [if_neg]
    · rfl
    · intro moves
      cases response.symm.trans (asks.mp moves).1

/-- An entry leaves the general registers alone, so the request is the one from before. -/
theorem move?_ending_enter (h : Hart) (rule : StepRule) (level : TrapLevel) (t : Trap) :
    ((h.enter level t).ending rule level t).move? =
      if Architecture.AsksToMove h t then some h.requestedMove else none :=
  move?_ending (h.enter level t) rule level t

end Hart

/-! ## Moved registers -/

/-- A page type above 3 has no size, so a move to it leads nowhere. -/
theorem Move.apply_of_lt {move : Move} (unknown : 3 < move.pageType.toNat) (a : Word) :
    move.apply a = a := by
  have sizeless : PageSize.ofCode? move.pageType = none := by
    unfold PageSize.ofCode?
    split
    all_goals first | omega | rfl
  unfold Move.apply
  rw [sizeless]

namespace RegFile

variable (file : RegFile) (move : Move)

/-- The registers once the scratch registers have moved and the request is used up. -/
def relocated : RegFile :=
  (((file.write .a1 0).write .a2 0).write .ra (move.apply (file.read .ra))).write .t0
    (move.apply (file.read .t0))

/-- A move uses up the request in the argument registers. -/
theorem read_relocated_request :
    (file.relocated move).read .a1 = 0 ∧ (file.relocated move).read .a2 = 0 := by
  constructor
  · rw [relocated, read_write_of_ne (by decide), read_write_of_ne (by decide),
      read_write_of_ne (by decide), read_write_self (by decide)]
  · rw [relocated, read_write_of_ne (by decide), read_write_of_ne (by decide),
      read_write_self (by decide)]

/-- A move takes the scratch registers along. -/
theorem read_relocated_scratch :
    (file.relocated move).read .ra = move.apply (file.read .ra) ∧
      (file.relocated move).read .t0 = move.apply (file.read .t0) := by
  constructor
  · rw [relocated, read_write_of_ne (by decide), read_write_self (by decide)]
  · rw [relocated, read_write_self (by decide)]

/-- A move leaves all other registers alone. -/
theorem slot_relocated {r : Register} (other : r ∉ [Register.ra, .t0, .a1, .a2]) :
    (file.relocated move).slot r = file.slot r := by
  simp only [List.mem_cons, List.not_mem_nil, or_false, not_or] at other
  obtain ⟨ra, t0, a1, a2⟩ := other
  simp only [relocated, slot_write, if_neg ra, if_neg t0, if_neg a1, if_neg a2, ite_self]

end RegFile

namespace Bench

/-! ## What an ending writes -/

section Concluded

variable (b : Bench) (level : TrapLevel) (f : TrapFrame)

/-- Only a move writes general registers, if the frame holds the scratch registers as they are. -/
theorem registers_conclude (saved : f.saved = { ra := b.hart.read .ra, t0 := b.hart.read .t0 })
    (e : Ending) :
    (b.conclude level f e).2.hart.registers =
      match e.move? with
      | none => b.hart.registers
      | some move => b.hart.registers.relocated move := by
  cases e with
  | halt v => rfl
  | back csrs ret =>
    show (b.hart.registers.write .ra f.saved.ra).write .t0 f.saved.t0 = b.hart.registers
    have ra : b.hart.registers.write .ra f.saved.ra = b.hart.registers := by
      rw [saved]
      exact RegFile.write_read _ _
    rw [ra, saved]
    exact RegFile.write_read _ _
  | moved csrs move next =>
    show (((b.hart.registers.write .a1 0).write .a2 0).write .ra (move.apply f.saved.ra)).write .t0
      (move.apply f.saved.t0) = b.hart.registers.relocated move
    rw [saved]
    rfl

/-- Only a move writes to the log, and there only its virtual base. -/
theorem log_conclude (e : Ending) :
    (b.conclude level f e).2.log =
      match e.move? with
      | none => b.log
      | some move => b.log.rebase (move.apply b.log.virtualCursor) := by
  cases e with
  | halt v => rfl
  | back csrs ret => cases level <;> rfl
  | moved csrs move next => cases level <;> rfl

end Concluded

/-! ## What a trap writes -/

section Taken

variable (b : Bench) (level : TrapLevel) (f : TrapFrame) (t : Trap)

theorem registers_take :
    (b.take level f t).bench.hart.registers =
      if Architecture.AsksToMove b.hart t then b.hart.registers.relocated b.hart.requestedMove
      else b.hart.registers := by
  rw [bench_take, registers_conclude _ level _ rfl, Hart.move?_ending_enter]
  by_cases moves : Architecture.AsksToMove b.hart t
  · rw [if_pos moves, if_pos moves]
    rfl
  · rw [if_neg moves, if_neg moves]
    rfl

theorem log_take :
    (b.take level f t).bench.log =
      if Architecture.AsksToMove b.hart t then
        b.log.rebase (b.hart.requestedMove.apply b.log.virtualCursor)
      else b.log := by
  have dispatched : (b.dispatch level f t).log = b.log := by cases level <;> rfl
  rw [bench_take, log_conclude, Hart.move?_ending_enter, dispatched]
  by_cases moves : Architecture.AsksToMove b.hart t
  · rw [if_pos moves, if_pos moves]
  · rw [if_neg moves, if_neg moves]

variable {b level f t}

theorem registers_take_of_not (stays : ¬Architecture.AsksToMove b.hart t) :
    (b.take level f t).bench.hart.registers = b.hart.registers := by
  rw [registers_take, if_neg stays]

/-- A call for another page uses up its request. -/
theorem read_request_take (moves : Architecture.AsksToMove b.hart t) :
    (b.take level f t).bench.hart.read .a1 = 0 ∧ (b.take level f t).bench.hart.read .a2 = 0 := by
  unfold Hart.read
  rw [registers_take, if_pos moves]
  exact RegFile.read_relocated_request _ _

/-- The scratch registers change only on a move to a page with a size. -/
theorem read_scratch_take (unknown : 3 < (b.hart.read .a2).toNat) :
    (b.take level f t).bench.hart.read .ra = b.hart.read .ra ∧
      (b.take level f t).bench.hart.read .t0 = b.hart.read .t0 := by
  by_cases moves : Architecture.AsksToMove b.hart t
  · obtain ⟨ra, t0⟩ := RegFile.read_relocated_scratch b.hart.registers b.hart.requestedMove
    rw [Move.apply_of_lt unknown] at ra t0
    unfold Hart.read
    rw [registers_take, if_pos moves]
    exact ⟨ra, t0⟩
  · unfold Hart.read
    rw [registers_take_of_not moves]
    exact ⟨rfl, rfl⟩

/-- No trap changes any other register. -/
theorem slot_take {r : Register} (other : r ∉ [Register.ra, .t0, .a1, .a2]) :
    (b.take level f t).bench.hart.registers.slot r = b.hart.registers.slot r := by
  rw [registers_take]
  split
  · exact RegFile.slot_relocated _ _ other
  · rfl

/-- The log stays as it is unless the program moves to a page with a size. -/
theorem log_take_of_not (stays : ¬(Architecture.AsksToMove b.hart t ∧ (b.hart.read .a2).toNat ≤ 3)) :
    (b.take level f t).bench.log = b.log := by
  rw [log_take]
  split
  · next moves =>
    have unknown : 3 < b.hart.requestedMove.pageType.toNat :=
      Nat.lt_of_not_le fun known => stays ⟨moves, known⟩
    rw [Move.apply_of_lt unknown, Log.rebase_virtualCursor]
  · rfl

/-- A trap that is taken with its cause in the log stays within its footprint. -/
theorem footprint_take {log : Log} (logged : b.logged? t.cause = some log) :
    Footprint level t b ({ b with log }.take level f t).bench := by
  have keeps := (take_settles { b with log } level f t).keeps
  obtain ⟨base, kept⟩ := keeps.log
  have extended := log_eq_of_logged? logged
  refine
    { csrs := fun _ => read_csrs_take (b := { b with log })
      status := status_take (b := { b with log })
      otherLevel := ?otherLevel
      control := fun _ control =>
        read_csrs_take (b := { b with log }) (level.csrs_control_disjoint control)
      settings := keeps.settings
      defaultVector := keeps.defaultVector
      registers := registers_take_of_not (b := { b with log })
      request := read_request_take (b := { b with log })
      scratch := read_scratch_take (b := { b with log })
      slots := fun _ => slot_take (b := { b with log })
      words := ?words
      region := ?region
      virtualBase := ?virtualBase }
  case otherLevel =>
    intro other ne
    exact ⟨keeps.frame? other ne, fun a own =>
      read_csrs_take (b := { b with log }) (TrapLevel.csrs_disjoint ne own)⟩
  case words => rw [kept, extended]
  case region =>
    rw [kept, extended]
    exact ⟨rfl, rfl⟩
  case virtualBase =>
    intro stays
    rw [log_take_of_not (b := { b with log }) stays, extended]

end Taken

/-- An accepted trap writes nothing outside of its footprint. -/
theorem footprint_of_raise {b : Bench} {t : Trap} {o : Outcome}
    (accepted : (raise t b).result = .ok o) :
    Footprint (Architecture.level b.hart t) t b (raise t b).state := by
  obtain ⟨a, admits, -, state⟩ := admits_of_raise accepted
  rw [state, ← trapLevel_eq, ← admits.level]
  exact footprint_take admits.logged

end Bench

end HartTraps
