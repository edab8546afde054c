import HartTraps.Bench.Call
import HartTraps.Bench.Setup
import HartTraps.Proofs.Trap.Ending
import HartTraps.Proofs.Trap.Settle

/-!
# The outcome of a trap

`Architecture.outcome` says what the privileged architecture and the handlers' conventions make of a
trap, in terms of the raw cause, the registers and the state of the bench before it. It follows no
stage of the handlers. `raise_outcome` says that the bench arrives at this outcome.
-/

namespace HartTraps

namespace Architecture

/-- Bit 63 of a raw cause tells interrupts from exceptions. -/
def isInterrupt (t : Trap) : Bool := t.cause.raw.getLsbD 63

/-- The other 63 bits of a raw cause are its code. -/
def code (t : Trap) : Nat := (t.cause.raw.setWidth 63).toNat

/-- Supervisor takes the traps from below Machine whose code has a bit in the mask for its class and
finds that bit set; Machine takes all others. -/
def level (h : Hart) (t : Trap) : TrapLevel :=
  let mask := h.csrs.read (if isInterrupt t then .mideleg else .medeleg)
  if t.origin ≠ .machine ∧ code t < 64 ∧ mask.getLsbD (code t) then .supervisor else .machine

/-- The trapping instruction takes two bytes if the settings ask for its length and it is known to be
compressed, which it is unless its two low bits are both set. In all other cases it counts as four bytes. -/
def step (b : Bench) (t : Trap) : Word :=
  if b.settings.stepRule = .decoded ∧ t.instruction.any (fun i => !(i.getLsbD 0 && i.getLsbD 1)) then 2 else 4

/-- The address past the trapping instruction. -/
def next (b : Bench) (t : Trap) : Word :=
  t.pc + step b t

/-- The offset bits of a page of the type with the given number. -/
def offsetMask? : Nat → Option Word
  | 0 => some 0xFFF
  | 1 => some 0x1FFFFF
  | 2 => some 0x3FFFFFFF
  | 3 => some 0x7FFFFFFFFF
  | _ => none

/-- Where a call that changes the mode resumes: past the call, or at that offset in the page whose
base is in a1 if a1 is not zero and a2 is the number of a page type. -/
def destination (b : Bench) (t : Trap) : Word :=
  if b.hart.read .a1 = 0 then next b t
  else
    match offsetMask? (b.hart.read .a2).toNat with
    | some mask => (next b t &&& mask) ||| b.hart.read .a1
    | none => next b t

/-- What a call asks for in a0. Supervisor cannot return to Machine and goes back to the origin. -/
def callOutcome (b : Bench) (t : Trap) : Outcome :=
  match (b.hart.read .a0).toNat with
  | 0 => .halted .pass
  | 1 => .halted (.fail (b.hart.read .a1))
  | 2 => .resumed (destination b t)
      (match level b.hart t with
      | .machine => .machine
      | .supervisor => t.origin)
  | 3 => .resumed (destination b t) .supervisor
  | 4 => .resumed (destination b t) .user
  | _ => .resumed (next b t) t.origin

/-- An interrupt resumes unless the vector routes it through the table and its entry is reserved. -/
def interruptOutcome (b : Bench) (t : Trap) : Outcome :=
  let vector := b.hart.csrs.read (level b.hart t).csrs.vector
  if vector.toNat % 4 ≠ 1 ∨ code t = 0 ∨ (code t % 2 = 1 ∧ code t ≤ 11) then
    .resumed (next b t) t.origin
  else
    .halted (.fatal t.cause.raw)

/-- An exception resumes past its instruction, resumes at the return address, is a call, or ends the
run. -/
def exceptionOutcome (b : Bench) (t : Trap) : Outcome :=
  match code t with
  | 2 | 5 | 7 | 13 | 15 => .resumed (next b t) t.origin
  | 1 | 12 => .resumed (b.hart.read .ra) t.origin
  | 8 | 9 | 11 => callOutcome b t
  | _ => .halted (.fatal t.cause.raw)

/-- The outcome of a trap on a bench. -/
def outcome (b : Bench) (t : Trap) : Outcome :=
  if isInterrupt t then interruptOutcome b t else exceptionOutcome b t

/-- An exception with the code of a call is served as one. -/
theorem outcome_of_call {b : Bench} {t : Trap} (exception : isInterrupt t = false)
    (call : code t ∈ [8, 9, 11]) : outcome b t = callOutcome b t := by
  unfold outcome exceptionOutcome
  rw [exception, if_neg Bool.false_ne_true]
  simp only [List.mem_cons, List.not_mem_nil, or_false] at call
  rcases call with code | code | code <;> rw [code] <;> rfl

/-- An exception goes back to the mode that it interrupted, is a call, or ends the run with its cause. -/
theorem exceptionOutcome_cases (b : Bench) (t : Trap) :
    (∃ ret, exceptionOutcome b t = .resumed ret t.origin) ∨
      (code t ∈ [8, 9, 11] ∧ exceptionOutcome b t = callOutcome b t) ∨
      exceptionOutcome b t = .halted (.fatal t.cause.raw) := by
  unfold exceptionOutcome
  generalize code t = code
  match code with
  | 2 | 5 | 7 | 13 | 15 => exact .inl ⟨_, rfl⟩
  | 1 | 12 => exact .inl ⟨_, rfl⟩
  | 8 | 9 | 11 => exact .inr (.inl ⟨by decide, rfl⟩)
  | 0 | 3 | 4 | 6 | 10 | 14 => exact .inr (.inr rfl)
  | code + 16 => exact .inr (.inr rfl)

section Verdicts

variable {b : Bench} {t : Trap} {v : Verdict}

/-- The raw cause of a call is its code. -/
theorem raw_of_call (exception : isInterrupt t = false) (call : code t ∈ [8, 9, 11]) :
    t.cause.raw ∈ [8, 9, 11] := by
  unfold isInterrupt at exception
  have low : t.cause.raw.toNat < 2 ^ 63 := BitVec.toNat_lt_of_msb_false
    (by rw [BitVec.msb_eq_getLsbD_last]; exact exception)
  have raw : t.cause.raw.toNat = code t := by
    unfold code
    rw [BitVec.toNat_setWidth, Nat.mod_eq_of_lt low]
  rw [← raw] at call
  simp only [List.mem_cons, List.not_mem_nil, or_false] at call ⊢
  rcases call with same | same | same
  · exact .inl (BitVec.eq_of_toNat_eq same)
  · exact .inr (.inl (BitVec.eq_of_toNat_eq same))
  · exact .inr (.inr (BitVec.eq_of_toNat_eq same))

theorem verdict_of_call (halted : callOutcome b t = .halted v) :
    v = .pass ∨ (v = .fail (b.hart.read .a1) ∧ b.hart.read .a0 = 1) := by
  unfold callOutcome at halted
  split at halted
  · cases halted
    exact .inl rfl
  · next op =>
    cases halted
    exact .inr ⟨rfl, BitVec.eq_of_toNat_eq op⟩
  all_goals cases halted

/-- A trap that ends the run as failed is a call for a failure, or its cause is the verdict. -/
theorem verdict_of_outcome (halted : outcome b t = .halted v) :
    v = .pass ∨ v = .fatal t.cause.raw ∨
      (v = .fail (b.hart.read .a1) ∧ b.hart.read .a0 = 1 ∧ t.cause.raw ∈ [8, 9, 11]) := by
  unfold outcome at halted
  split at halted
  · unfold interruptOutcome at halted
    dsimp only at halted
    split at halted
    · cases halted
    · cases halted
      exact .inr (.inl rfl)
  · next exception =>
    rcases exceptionOutcome_cases b t with ⟨ret, back⟩ | ⟨call, called⟩ | ended
    · rw [back] at halted
      cases halted
    · rw [called] at halted
      obtain passed | ⟨failed, op⟩ := verdict_of_call halted
      · exact .inl passed
      · exact .inr (.inr ⟨failed, op, raw_of_call (Bool.eq_false_iff.mpr exception) call⟩)
    · rw [ended] at halted
      cases halted
      exact .inr (.inl rfl)

end Verdicts

end Architecture

/-! ## Steps -/

theorem and_three_eq_three_iff (i : BitVec 32) : i &&& 3 = 3 ↔ i.getLsbD 0 ∧ i.getLsbD 1 := by
  have mask : (3 : BitVec 32).toNat = 2 ^ 2 - 1 := rfl
  rw [← BitVec.toNat_inj, BitVec.toNat_and, mask, Nat.and_two_pow_sub_one_eq_mod]
  unfold BitVec.getLsbD
  rw [Nat.testBit_zero, Nat.testBit_succ, Nat.testBit_zero, decide_eq_true_iff, decide_eq_true_iff]
  omega

theorem length_eq_step (b : Bench) (t : Trap) :
    b.settings.stepRule.length t.instruction = Architecture.step b t := by
  unfold StepRule.length Architecture.step
  cases b.settings.stepRule with
  | fixed => rfl
  | decoded =>
    cases t.instruction with
    | none => rfl
    | some i =>
      simp only [and_three_eq_three_iff, Option.any_some]
      cases i.getLsbD 0 <;> cases i.getLsbD 1 <;> rfl

/-! ## Causes and levels -/

theorem isInterrupt_eq (t : Trap) : t.cause.isInterrupt = Architecture.isInterrupt t := by
  unfold Cause.isInterrupt Architecture.isInterrupt
  rw [BitVec.msb_eq_getLsbD_last]

theorem code_eq (t : Trap) : t.cause.code.toNat = Architecture.code t := by
  unfold Cause.code Architecture.code
  have mask : (~~~Cause.interruptBit).toNat = 2 ^ 63 - 1 := by decide
  rw [BitVec.toNat_and, mask, Nat.and_two_pow_sub_one_eq_mod, BitVec.toNat_setWidth]

theorem trapLevel_eq (h : Hart) (t : Trap) : h.trapLevel t = Architecture.level h t := by
  unfold Hart.trapLevel Architecture.level Hart.delegationMask
  rw [isInterrupt_eq, code_eq]
  by_cases machine : t.origin = .machine
  · rw [if_pos (Or.inl machine), if_neg (fun below => below.1 machine)]
  · by_cases wide : 64 ≤ Architecture.code t
    · rw [if_pos (Or.inr wide), if_neg (fun below => absurd below.2.1 (by omega))]
    · rw [if_neg (fun above => above.elim machine wide)]
      have narrow : Architecture.code t < 64 := by omega
      simp only [ne_eq, machine, not_false_eq_true, narrow, true_and]

/-- The interrupt table has an entry at 0 and at the odd codes up to 11. -/
theorem isTabled_iff (code : Word) :
    Cause.isTabled code = true ↔
      code.toNat = 0 ∨ (code.toNat % 2 = 1 ∧ code.toNat ≤ 11) := by
  have zero : code = 0 ↔ code.toNat = 0 := BitVec.toNat_inj.symm
  unfold Cause.isTabled Interrupt.ofCode?
  rw [Bool.or_eq_true, decide_eq_true_iff, zero]
  generalize code.toNat = n
  match n with
  | 0 | 1 | 2 | 3 | 4 | 5 | 6 | 7 | 8 | 9 | 10 | 11 => decide
  | n + 12 => simp

/-- The response to an interrupt depends on the vector's two low bits and on the code. -/
theorem response_interrupt {t : Trap} (interrupt : Architecture.isInterrupt t = true)
    (vector : Word) :
    t.cause.response (.ofVector vector) =
      if vector.toNat % 4 ≠ 1 ∨ Architecture.code t = 0 ∨
          (Architecture.code t % 2 = 1 ∧ Architecture.code t ≤ 11) then .resumeNext else .halt := by
  have low : vector &&& 3 = 1 ↔ vector.toNat % 4 = 1 := by
    have mask : (3 : Word).toNat = 2 ^ 2 - 1 := rfl
    rw [← BitVec.toNat_inj, BitVec.toNat_and, mask, Nat.and_two_pow_sub_one_eq_mod]
    exact Iff.rfl
  have tabled := isTabled_iff t.cause.code
  rw [code_eq] at tabled
  unfold Cause.response Vectoring.ofVector
  rw [isInterrupt_eq, if_pos interrupt]
  by_cases table : vector.toNat % 4 = 1
  · rw [if_pos (low.mpr table)]
    simp only [tabled, table, ne_eq, not_true_eq_false, false_or]
  · rw [if_neg (fun h => table (low.mp h)), if_pos (Or.inl table)]

/-- The response to an exception depends on the code alone. -/
theorem response_exception {t : Trap} (exception : Architecture.isInterrupt t = false)
    (vectoring : Vectoring) :
    t.cause.response vectoring =
      match Architecture.code t with
      | 2 | 5 | 7 | 13 | 15 => .resumeNext
      | 1 | 12 => .resumeCaller
      | 8 | 9 | 11 => .serveCall
      | _ => .halt := by
  unfold Cause.response Exception.ofCode?
  rw [isInterrupt_eq, if_neg (by rw [exception]; decide), code_eq]
  generalize Architecture.code t = n
  match n with
  | 0 | 1 | 2 | 3 | 4 | 5 | 6 | 7 | 8 | 9 | 10 | 11 | 12 | 13 | 14 | 15 => rfl
  | n + 16 => rfl

/-! ## Pages -/

theorem offsetMask?_eq (code : Word) :
    Architecture.offsetMask? code.toNat = (PageSize.ofCode? code).map PageSize.offsetMask := by
  unfold PageSize.ofCode?
  generalize code.toNat = n
  match n with
  | 0 | 1 | 2 | 3 => rfl
  | n + 4 => rfl

/-- Where a move takes an address: nowhere if its page is 0 or its page type has no size. -/
def Move.destination (move : Move) (next : Word) : Word :=
  if move.page = 0 then next
  else
    match PageSize.ofCode? move.pageType with
    | some size => size.relocate next move.page
    | none => next

/-! ## The stages of a handler -/

namespace Bench

variable (b : Bench) (level : TrapLevel) (f : TrapFrame)

theorem leave_outcome (ret : Word) :
    (b.leave level f ret).outcome = .resumed ret (b.hart.csrs.previousMode level) := by
  have mode : (b.hart.csrs.write level.csrs.pc ret).previousMode level =
      b.hart.csrs.previousMode level :=
    CsrFile.previousMode_congr (CsrFile.read_write_of_ne level.csrs_pc_ne_mstatus.symm) level
  simp only [leave, Hart.leave, Hart.csrs_write, Hart.csrs_writeCsr, CsrFile.read_write_self, mode]

theorem resume_none_outcome :
    (b.resume level f none).outcome =
      .resumed (b.nextAddress level f) (b.hart.csrs.previousMode level) :=
  leave_outcome b level f _

theorem resume_some_outcome (move : Move) :
    (b.resume level f (some move)).outcome =
      .resumed (move.destination (b.nextAddress level f)) (b.hart.csrs.previousMode level) := by
  simp only [resume]
  unfold Move.destination
  split
  · exact leave_outcome b level f _
  · unfold leaveMoved
    cases PageSize.ofCode? move.pageType with
    | some size => exact leave_outcome _ level _ _
    | none => exact leave_outcome _ level _ _

/-- A call for another mode resumes there unless Supervisor is asked for Machine. -/
theorem serveGoto_outcome (target : Mode) (move : Move) :
    (b.serveGoto level f target move).outcome =
      .resumed (move.destination (b.nextAddress level f))
        (if level = .supervisor ∧ target = .machine then b.hart.csrs.previousMode level
          else target) := by
  unfold serveGoto Hart.setPreviousMode?
  cases request : b.hart.csrs.setPreviousMode? level target with
  | none =>
    rw [if_pos ((CsrFile.setPreviousMode?_eq_none_iff _ _ _).mp request)]
    exact resume_some_outcome (b.beginReturn level) level f move
  | some csrs =>
    have possible : ¬(level = .supervisor ∧ target = .machine) := by
      intro refused
      rw [(CsrFile.setPreviousMode?_eq_none_iff _ _ _).mpr refused] at request
      cases request
    have next : csrs.read level.csrs.pc = b.hart.csrs.read level.csrs.pc :=
      CsrFile.read_of_setPreviousMode? request level.csrs_pc_ne_mstatus
    simp only [Option.map_some]
    rw [if_neg possible, resume_some_outcome]
    simp only [beginReturn, nextAddress, next, CsrFile.previousMode_of_set request]

theorem serveCall_outcome (request : CallRequest) :
    (b.serveCall level f request).outcome =
      match request.op.toNat with
      | 0 => .halted .pass
      | 1 => .halted (.fail request.page)
      | 2 => (b.serveGoto level f .machine ⟨request.page, request.pageType⟩).outcome
      | 3 => (b.serveGoto level f .supervisor ⟨request.page, request.pageType⟩).outcome
      | 4 => (b.serveGoto level f .user ⟨request.page, request.pageType⟩).outcome
      | _ => .resumed (b.nextAddress level f) (b.hart.csrs.previousMode level) := by
  unfold serveCall CallOp.ofCode?
  generalize request.op.toNat = n
  match n with
  | 0 | 1 | 2 | 3 | 4 => rfl
  | n + 5 => exact resume_none_outcome (b.beginReturn level) level f

end Bench

/-! ## The whole trap -/

namespace Bench

section Taken

variable {b : Bench} {t : Trap} {level : TrapLevel} (taken : b.hart.trapLevel t = level)
  (f : TrapFrame)

include taken

/-- A handler that returns at once goes past the instruction that trapped. -/
theorem nextAddress_dispatch :
    (b.dispatch level f t).nextAddress level (f.next (b.hart.enter level t) t) =
      Architecture.next b t := by
  subst taken
  simp only [nextAddress, dispatch, settings_setFrame, Hart.csrs_enter, TrapFrame.next,
    Hart.read_pc_csrsAtEntry, Architecture.next, length_eq_step]

/-- A handler that returns at once goes to the mode of origin. -/
theorem previousMode_dispatch : (b.dispatch level f t).hart.csrs.previousMode level = t.origin := by
  subst taken
  exact Hart.previousMode_csrsAtEntry b.hart t

theorem resume_dispatch :
    (((b.dispatch level f t).beginReturn level).resume level
      (f.next (b.hart.enter level t) t) none).outcome =
        .resumed (Architecture.next b t) t.origin := by
  rw [resume_none_outcome]
  show Outcome.resumed ((b.dispatch level f t).nextAddress level _)
    ((b.dispatch level f t).hart.csrs.previousMode level) = _
  rw [nextAddress_dispatch taken, previousMode_dispatch taken]

/-- A call for another mode, served at the level that took the trap. -/
theorem serveGoto_dispatch (target : Mode) :
    ((b.dispatch level f t).serveGoto level (f.next (b.hart.enter level t) t) target
      ⟨b.hart.read .a1, b.hart.read .a2⟩).outcome =
        .resumed (Architecture.destination b t)
          (if level = .supervisor ∧ target = .machine then t.origin else target) := by
  have moved : Move.destination ⟨b.hart.read .a1, b.hart.read .a2⟩ (Architecture.next b t) =
      Architecture.destination b t := by
    unfold Move.destination Architecture.destination
    rw [offsetMask?_eq]
    cases PageSize.ofCode? (b.hart.read .a2) <;> rfl
  rw [serveGoto_outcome, nextAddress_dispatch taken, previousMode_dispatch taken, moved]

theorem serveCall_dispatch :
    ((b.dispatch level f t).serveCall level (f.next (b.hart.enter level t) t)
      (b.hart.enter level t).request).outcome = Architecture.callOutcome b t := by
  rw [serveCall_outcome]
  simp only [Hart.request, Hart.read_enter, serveGoto_dispatch taken, nextAddress_dispatch taken,
    previousMode_dispatch taken]
  unfold Architecture.callOutcome
  rw [← trapLevel_eq, taken]
  generalize (b.hart.read .a0).toNat = op
  match op with
  | 0 | 1 | 3 | 4 => simp
  | 2 => cases level <;> rfl
  | op + 5 => rfl

/-- Taking a trap at the level to which it belongs comes to the architectural outcome. -/
theorem take_outcome : (b.take level f t).outcome = Architecture.outcome b t := by
  have vector : (b.hart.enter level t).csrs.read level.csrs.vector =
      b.hart.csrs.read level.csrs.vector := by
    subst taken
    exact Hart.read_vector_csrsAtEntry b.hart t _
  unfold take
  rw [Served.outcome_after, vector]
  unfold Architecture.outcome
  cases kind : Architecture.isInterrupt t with
  | true =>
    rw [response_interrupt kind, if_pos rfl]
    unfold Architecture.interruptOutcome
    rw [← trapLevel_eq, taken]
    dsimp only
    by_cases routed : (b.hart.csrs.read level.csrs.vector).toNat % 4 ≠ 1 ∨
        Architecture.code t = 0 ∨ (Architecture.code t % 2 = 1 ∧ Architecture.code t ≤ 11)
    · rw [if_pos routed, if_pos routed]
      exact resume_dispatch taken f
    · rw [if_neg routed, if_neg routed]
      rfl
  | false =>
    rw [response_exception kind, if_neg Bool.false_ne_true]
    unfold Architecture.exceptionOutcome
    generalize Architecture.code t = code
    match code with
    | 0 | 3 | 4 | 6 | 10 | 14 => rfl
    | 2 | 5 | 7 | 13 | 15 => exact resume_dispatch taken f
    | 1 | 12 =>
      refine (leave_outcome _ level _ _).trans ?_
      show Outcome.resumed (b.hart.read .ra)
        ((b.dispatch level f t).hart.csrs.previousMode level) = .resumed (b.hart.read .ra) t.origin
      rw [previousMode_dispatch taken]
    | 8 | 9 | 11 => exact serveCall_dispatch taken f
    | code + 16 => rfl

end Taken

/-- An accepted trap comes to its architectural outcome. -/
theorem outcome_of_raise {b : Bench} {t : Trap} {o : Outcome}
    (accepted : (raise t b).result = .ok o) : Architecture.outcome b t = o := by
  obtain ⟨a, admits, served, -⟩ := admits_of_raise accepted
  exact (take_outcome (b := { b with log := a.log }) admits.level.symm a.frame).symm.trans served

/-- The bench is where an outcome leads: at the pc and in the mode with which the program resumes and ready for
its next trap, or halted with the verdict. -/
def Follows (b : Bench) : Outcome → Prop
  | .resumed pc mode => b.phase = .idle ∧ b.hart.pc = pc ∧ b.hart.mode = mode
  | .halted v => b.phase = .halted v

/-- An accepted trap leaves the bench where its outcome leads. -/
theorem follows_of_raise {b : Bench} {t : Trap} {o : Outcome} (accepted : (raise t b).result = .ok o) :
    (raise t b).state.Follows o := by
  have phase := phase_of_raise accepted
  obtain ⟨a, -, served, state⟩ := admits_of_raise accepted
  cases o with
  | halted v => exact phase
  | resumed pc mode =>
    obtain ⟨there, mode⟩ := hart_of_take_resumed served
    rw [← state] at there mode
    exact ⟨phase, there, mode⟩

/-- A cause can be logged if the settings do not ask for it or the log has room. -/
theorem exists_logged {b : Bench}
    (room : b.settings.recordCauses = false ∨ b.log.words.length < b.log.capacity.toNat)
    (c : Cause) : ∃ log, b.logged? c = some log := by
  cases logged : b.logged? c with
  | some log => exact ⟨log, rfl⟩
  | none =>
    obtain ⟨record, full⟩ := logged?_eq_none_iff.mp logged
    rcases room with off | free
    · rw [record] at off
      cases off
    · exact absurd free (Nat.not_lt.mpr full)

/-- Every trap that an idle bench takes at a level with a handler, with room for its cause if causes
are logged, comes to the architectural outcome, and the bench is left where that leads. -/
theorem raise_outcome (b : Bench) (t : Trap) (idle : b.phase = .idle)
    (installed : b.frame? (Architecture.level b.hart t) ≠ none)
    (room : b.settings.recordCauses = false ∨ b.log.words.length < b.log.capacity.toNat) :
    b.hart.trapLevel t = Architecture.level b.hart t ∧
      (raise t b).result = .ok (Architecture.outcome b t) ∧
      (raise t b).state.Follows (Architecture.outcome b t) := by
  have taken := trapLevel_eq b.hart t
  obtain ⟨frame, installed⟩ := Option.ne_none_iff_exists'.mp installed
  obtain ⟨log, logged⟩ := exists_logged room t.cause
  have admitted : b.admission t = .ok { level := Architecture.level b.hart t, frame, log } := by
    simp only [admission, idle, taken, installed, logged]
  have answer : (raise t b).result = .ok (Architecture.outcome b t) := by
    simp only [raise, admitted]
    exact congrArg Except.ok (take_outcome (b := { b with log }) taken frame)
  exact ⟨taken, answer, follows_of_raise answer⟩

/-- A user program that is about to ask for Machine mode in another page, while calls from User are
delegated and causes are logged. -/
def delegatedCall : Bench :=
  let b := ((start { recordCauses := true }).withHandler .supervisor 0x80000300 .vectored).delegate
    0x100 0
  ((b.setMode .user).setPc 0x1FFC).setRequest { op := 2, page := 0x40000000, pageType := 0 }

/-- The call resumes in User mode at its offset in the new page. -/
theorem raise_outcome_delegatedCall :
    delegatedCall.phase = .idle ∧
      delegatedCall.frame? (Architecture.level delegatedCall.hart (.environmentCall .user 0x1FFC)) ≠
        none ∧
      delegatedCall.log.words.length < delegatedCall.log.capacity.toNat ∧
      delegatedCall.hart.trapLevel (.environmentCall .user 0x1FFC) = .supervisor ∧
      (raise (.environmentCall .user 0x1FFC) delegatedCall).result =
        .ok (.resumed 0x40000000 .user) ∧
      (raise (.environmentCall .user 0x1FFC) delegatedCall).state.Follows
        (.resumed 0x40000000 .user) := by
  have idle : delegatedCall.phase = .idle := rfl
  have installed : delegatedCall.frame?
      (Architecture.level delegatedCall.hart (.environmentCall .user 0x1FFC)) ≠ none := by decide
  have room : delegatedCall.log.words.length < delegatedCall.log.capacity.toNat := by decide
  have outcome : Architecture.outcome delegatedCall (.environmentCall .user 0x1FFC) =
      .resumed 0x40000000 .user := by decide
  have level : Architecture.level delegatedCall.hart (.environmentCall .user 0x1FFC) = .supervisor := by
    decide
  obtain ⟨taken, answer, left⟩ := raise_outcome delegatedCall (.environmentCall .user 0x1FFC) idle
    installed (Or.inr room)
  rw [outcome] at answer left
  exact ⟨idle, installed, room, taken.trans level, answer, left⟩

end Bench

end HartTraps
