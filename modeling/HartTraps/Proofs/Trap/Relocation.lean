import HartTraps.Proofs.Trap.Footprint
import Mathlib.Data.Nat.ModEq

/-!
# Calls that move the program

A call for another mode may ask to resume in another page. The bench tracks addresses in several places:
ra and t0, the cursor of the log in its virtual view, and the address past the call. `Bench.Relocation`
says that a trap takes all of them along in the same way and uses up its request. `raise_relocates` says
that every accepted call of this kind does so, and where the addresses go: to their offset in the new
page, or nowhere if no page has the requested type.
-/

namespace HartTraps

/-- The log once it holds the cause of a trap, if causes are recorded. -/
def Architecture.recorded (b : Bench) (t : Trap) : Log :=
  { b.log with words := b.log.words ++ if b.settings.recordCauses then [t.cause.raw] else [] }

namespace Bench

/-- From `b` to `c` a trap takes every tracked address to its place and uses up its request. -/
structure Relocation (t : Trap) (place : Word → Word) (b c : Bench) (o : Outcome) : Prop where
  outcome : ∃ mode, o = .resumed (place (Architecture.next b t)) mode
  pc : c.hart.pc = place (Architecture.next b t)
  exceptionPc : c.hart.csrs.read (Architecture.level b.hart t).csrs.pc =
    place (Architecture.next b t)
  scratch : c.hart.read .ra = place (b.hart.read .ra) ∧ c.hart.read .t0 = place (b.hart.read .t0)
  cursor : c.log.virtualCursor = place (Architecture.recorded b t).virtualCursor
  physical : c.log.physicalCursor = (Architecture.recorded b t).physicalCursor ∧
    c.log.physicalBase = b.log.physicalBase ∧ c.log.words = (Architecture.recorded b t).words
  request : c.hart.read .a1 = 0 ∧ c.hart.read .a2 = 0
  slots : ∀ r, r ∉ [Register.ra, .t0, .a1, .a2] → c.hart.registers.slot r = b.hart.registers.slot r
  frame : ∃ f, b.frame? (Architecture.level b.hart t) = some f ∧
    c.frame? (Architecture.level b.hart t) = some
      { saved := { ra := place (b.hart.read .ra), t0 := place (b.hart.read .t0) }
        resumeAddress := place (Architecture.next b t)
        pending := none
        instruction := t.instruction
        trapsTaken := f.trapsTaken + 1 }

end Bench

/-! ## Where a move takes an address -/

/-- A move to a page with a size keeps the offset bits. -/
theorem Move.apply_of_mask (move : Move) {mask : Word}
    (known : Architecture.offsetMask? move.pageType.toNat = some mask) (a : Word) :
    move.apply a = (a &&& mask) ||| move.page := by
  rw [offsetMask?_eq] at known
  obtain ⟨size, code, rfl⟩ := Option.map_eq_some_iff.mp known
  unfold Move.apply
  rw [code]
  rfl

/-- A move to a page without a size leads nowhere. -/
theorem Move.apply_of_none (move : Move)
    (unknown : Architecture.offsetMask? move.pageType.toNat = none) (a : Word) : move.apply a = a := by
  rw [offsetMask?_eq, Option.map_eq_none_iff] at unknown
  unfold Move.apply
  rw [unknown]

/-- No other register changes when a request is cleared. -/
theorem RegFile.read_cleared_of_ne (file : RegFile) {r : Register} (a1 : r ≠ .a1) (a2 : r ≠ .a2) :
    ((file.write .a1 0).write .a2 0).read r = file.read r := by
  rw [read_write_of_ne a2, read_write_of_ne a1]

/-- A call that asks to move ends with a move. Without the request it would end with a return to the same
address, with the same control registers. -/
theorem Hart.ending_of_asksToMove {h : Hart} {t : Trap} (asks : Architecture.AsksToMove h t)
    (rule : StepRule) (level : TrapLevel) :
    ∃ csrs,
      h.ending rule level t =
        .moved csrs h.requestedMove (h.csrs.read level.csrs.pc + rule.length t.instruction) ∧
      ((h.write .a1 0).write .a2 0).ending rule level t =
        .back csrs (h.csrs.read level.csrs.pc + rule.length t.instruction) := by
  obtain ⟨exception, call, op, page⟩ := asks
  have served (vectoring : Vectoring) : t.cause.response vectoring = .serveCall :=
    response_eq_serveCall_iff.mpr ⟨exception, call⟩
  obtain ⟨target, goto⟩ : ∃ target, CallOp.ofCode? (h.read .a0) = some (.goto target) := by
    unfold CallOp.ofCode?
    simp only [List.mem_cons, List.not_mem_nil, or_false] at op
    rcases op with op | op | op <;> rw [op] <;> exact ⟨_, rfl⟩
  have a0 : ((h.write .a1 0).write .a2 0).read .a0 = h.read .a0 :=
    h.registers.read_cleared_of_ne (by decide) (by decide)
  have a1 : ((h.write .a1 0).write .a2 0).read .a1 = 0 := by
    show ((h.registers.write .a1 0).write .a2 0).read .a1 = 0
    rw [RegFile.read_write_of_ne (by decide), RegFile.read_write_self (by decide)]
  refine ⟨(h.csrs.setPreviousMode? level target).getD h.csrs, ?_, ?_⟩
  · unfold ending callEnding
    dsimp only
    rw [served, goto]
    exact if_neg page
  · unfold ending callEnding
    dsimp only
    rw [served, a0, goto, a1]
    exact if_pos rfl

namespace Architecture

/-- A call for another page resumes where its move takes the address past it. -/
theorem destination_of_page {b : Bench} (page : b.hart.read .a1 ≠ 0) (t : Trap) :
    destination b t = b.hart.requestedMove.apply (next b t) := by
  unfold destination
  rw [if_neg page]
  split
  · next mask known => exact (b.hart.requestedMove.apply_of_mask known _).symm
  · next unknown => exact (b.hart.requestedMove.apply_of_none unknown _).symm

theorem outcome_of_asksToMove {b : Bench} {t : Trap} (asks : AsksToMove b.hart t) :
    ∃ mode, outcome b t = .resumed (b.hart.requestedMove.apply (next b t)) mode := by
  obtain ⟨exception, call, op, page⟩ := asks
  rw [outcome_of_call exception call, callOutcome, destination_of_page page]
  simp only [List.mem_cons, List.not_mem_nil, or_false] at op
  rcases op with op | op | op <;> rw [op] <;> exact ⟨_, rfl⟩

end Architecture

/-! ## Aligned pages -/

namespace Architecture

/-- An offset mask has ones in its low bits only. -/
theorem toNat_of_offsetMask? {code : Nat} {mask : Word} (known : offsetMask? code = some mask) :
    ∃ bits ≤ 64, mask.toNat = 2 ^ bits - 1 := by
  unfold offsetMask? at known
  split at known
  · cases known
    exact ⟨12, by decide, by decide⟩
  · cases known
    exact ⟨21, by decide, by decide⟩
  · cases known
    exact ⟨30, by decide, by decide⟩
  · cases known
    exact ⟨39, by decide, by decide⟩
  · cases known

/-- Addresses with the same offset in a page lie a multiple of the page size apart. -/
theorem dvd_sub_of_and_eq {x y mask : Word} {bits : Nat} (word : bits ≤ 64)
    (low : mask.toNat = 2 ^ bits - 1) (same : x &&& mask = y &&& mask) :
    2 ^ bits ∣ (x - y).toNat := by
  have offset : x.toNat % 2 ^ bits = y.toNat % 2 ^ bits := by
    have equal := congrArg BitVec.toNat same
    rwa [BitVec.toNat_and, BitVec.toNat_and, low, Nat.and_two_pow_sub_one_eq_mod,
      Nat.and_two_pow_sub_one_eq_mod] at equal
  have wraps : 2 ^ bits ∣ 2 ^ 64 := Nat.pow_dvd_pow 2 word
  have below : y.toNat < 2 ^ 64 := y.isLt
  have whole : 2 ^ 64 - y.toNat + x.toNat + y.toNat = 2 ^ 64 + x.toNat := by omega
  have shifted : 2 ^ 64 + x.toNat ≡ 0 + y.toNat [MOD 2 ^ bits] :=
    (Nat.modEq_zero_iff_dvd.mpr wraps).add offset
  rw [BitVec.toNat_sub, Nat.dvd_mod_iff wraps, ← Nat.modEq_zero_iff_dvd]
  refine Nat.ModEq.add_right_cancel' y.toNat ?_
  rwa [whole]

/-- A page base without offset bits keeps the offset. -/
theorem and_place_of_aligned {page mask : Word} (aligned : page &&& mask = 0) (a : Word) :
    ((a &&& mask) ||| page) &&& mask = a &&& mask := by
  rw [BitVec.and_or_distrib_right, aligned, BitVec.and_assoc, BitVec.and_self]
  exact BitVec.or_zero

end Architecture

namespace Log

/-- The virtual base moves as far as its cursor. -/
theorem virtualBase_rebase_sub (log : Log) (cursor : Word) :
    (log.rebase cursor).virtualBase - log.virtualBase = cursor - log.virtualCursor := by
  show cursor - log.offset - log.virtualBase = cursor - (log.virtualBase + log.offset)
  rw [BitVec.sub_sub, BitVec.add_comm log.offset]

/-- A cursor that moves to a page without offset bits takes the virtual base along by whole pages. -/
theorem dvd_virtualBase_rebase {code : Nat} {page mask : Word}
    (known : Architecture.offsetMask? code = some mask) (aligned : page &&& mask = 0) (log : Log) :
    mask.toNat + 1 ∣
      ((log.rebase ((log.virtualCursor &&& mask) ||| page)).virtualBase - log.virtualBase).toNat := by
  obtain ⟨bits, word, low⟩ := Architecture.toNat_of_offsetMask? known
  have size : mask.toNat + 1 = 2 ^ bits := by
    have positive : 0 < 2 ^ bits := Nat.two_pow_pos bits
    omega
  rw [size, virtualBase_rebase_sub]
  exact Architecture.dvd_sub_of_and_eq word low
    (Architecture.and_place_of_aligned aligned log.virtualCursor)

end Log

/-! ## What a move leaves -/

namespace Bench

variable {b : Bench} {level : TrapLevel} {f : TrapFrame} {t : Trap}

/-- A handler that returns leaves the address in the exception pc of its level and in its frame. -/
theorem exceptionPc_of_conclude_resumed {e : Ending} {pc : Word} {mode : Mode}
    (resumed : (b.conclude level f e).1 = .resumed pc mode) :
    (b.conclude level f e).2.hart.csrs.read level.csrs.pc = pc := by
  cases e with
  | halt v => cases resumed
  | back csrs ret =>
    cases resumed
    rfl
  | moved csrs move next =>
    cases resumed
    rfl

/-- The frame after a move has moved too, and holds the address to which the handler returns. -/
theorem frame?_of_conclude_moved {e : Ending} {move : Move} (moves : e.move? = some move) {pc : Word}
    {mode : Mode} (resumed : (b.conclude level f e).1 = .resumed pc mode) :
    (b.conclude level f e).2.frame? level =
      some { f.relocated move with resumeAddress := pc } := by
  cases e with
  | halt v => cases moves
  | back csrs ret => cases moves
  | moved csrs move next =>
    cases moves
    have there : pc = move.apply next :=
      (Outcome.resumed.inj resumed).1.symm.trans
        (CsrFile.read_write_self csrs level.csrs.pc (move.apply next))
    rw [there]
    cases level <;> rfl

section Taken

variable (taken : b.hart.trapLevel t = level) (asks : Architecture.AsksToMove b.hart t)

include taken asks

/-- A trap that asks to move takes every tracked address along in the same way. -/
theorem relocation_take (held : b.frame? level = some f) :
    Relocation t b.hart.requestedMove.apply b
      ({ b with log := Architecture.recorded b t }.take level f t).bench
      ({ b with log := Architecture.recorded b t }.take level f t).outcome := by
  let r : Bench := { b with log := Architecture.recorded b t }
  obtain ⟨mode, leads⟩ := Architecture.outcome_of_asksToMove asks
  have outcome : (r.take level f t).outcome =
      .resumed (b.hart.requestedMove.apply (Architecture.next b t)) mode :=
    (take_outcome (b := r) taken f).trans leads
  have concluded := (congrArg Prod.fst (deed_take r level f t)).symm.trans outcome
  have registers : (r.take level f t).bench.hart.registers =
      b.hart.registers.relocated b.hart.requestedMove :=
    (registers_take r level f t).trans (if_pos asks)
  have log : (r.take level f t).bench.log =
      r.log.rebase (b.hart.requestedMove.apply r.log.virtualCursor) :=
    (log_take r level f t).trans (if_pos asks)
  have moves : ((r.hart.enter level t).ending r.settings.stepRule level t).move? =
      some b.hart.requestedMove :=
    (Hart.move?_ending_enter _ _ _ _).trans (if_pos asks)
  have own : Architecture.level b.hart t = level := (trapLevel_eq b.hart t).symm.trans taken
  refine
    { outcome := ⟨mode, outcome⟩
      pc := (hart_of_take_resumed outcome).1
      exceptionPc := ?exceptionPc
      scratch := ?scratch
      cursor := ?cursor
      physical := ?physical
      request := read_request_take (b := r) asks
      slots := fun r => slot_take
      frame := ?frame }
  case exceptionPc =>
    rw [own, bench_take]
    exact exceptionPc_of_conclude_resumed concluded
  case scratch =>
    unfold Hart.read
    rw [registers]
    exact RegFile.read_relocated_scratch _ _
  case cursor =>
    rw [log]
    exact Log.virtualCursor_rebase _ _
  case physical =>
    rw [log]
    exact ⟨Log.physicalCursor_rebase _ _, rfl, rfl⟩
  case frame =>
    refine ⟨f, own ▸ held, ?_⟩
    rw [own, bench_take]
    exact frame?_of_conclude_moved moves concluded

end Taken

/-! ## Pages that do not exist -/

/-- A move that leads nowhere is a return with its request used up. -/
theorem conclude_moved_of_id {move : Move} (still : ∀ a, move.apply a = a) (b : Bench)
    (level : TrapLevel) (f : TrapFrame) (csrs : CsrFile) (next : Word) :
    b.conclude level f (.moved csrs move next) =
      b.clearRequest.conclude level { f with pending := none } (.back csrs next) := by
  unfold conclude relocated TrapFrame.relocated
  simp only [still, Log.rebase_virtualCursor]
  rfl

/-- A move that leads nowhere leaves what the same call leaves without a request in the registers, but
nothing pending. -/
theorem deed_take_of_id (b : Bench) (level : TrapLevel) (f : TrapFrame)
    (asks : Architecture.AsksToMove b.hart t)
    (still : ∀ a, b.hart.requestedMove.apply a = a) :
    ∃ g, (b.clearRequest.take level f t).bench.frame? level = some g ∧
      (b.take level f t).deed =
        ((b.clearRequest.take level f t).outcome,
          (b.clearRequest.take level f t).bench.setFrame level { g with pending := none }) := by
  let entered := b.hart.enter level t
  let next := entered.csrs.read level.csrs.pc + b.settings.stepRule.length t.instruction
  -- The two handlers differ in the request that they find.
  let frame : TrapFrame :=
    { f.next entered t with pending := some (b.clearRequest.hart.enter level t).request }
  obtain ⟨csrs, moved, back⟩ :=
    Hart.ending_of_asksToMove (h := entered) asks b.settings.stepRule level
  have framed : f.next (b.clearRequest.hart.enter level t) t = frame := by
    have ra : b.clearRequest.hart.read .ra = b.hart.read .ra :=
      b.hart.registers.read_cleared_of_ne (by decide) (by decide)
    have t0 : b.clearRequest.hart.read .t0 = b.hart.read .t0 :=
      b.hart.registers.read_cleared_of_ne (by decide) (by decide)
    unfold TrapFrame.next
    rw [Hart.read_enter, Hart.read_enter, ra, t0]
    rfl
  have here : (b.take level f t).deed =
      (b.dispatch level f t).clearRequest.conclude level { f.next entered t with pending := none }
        (.back csrs next) := by
    rw [deed_take, moved]
    exact conclude_moved_of_id still _ _ _ _ _
  have there : (b.clearRequest.take level f t).deed =
      (b.clearRequest.dispatch level f t).conclude level frame (.back csrs next) := by
    rw [deed_take, framed]
    exact congrArg _ back
  obtain ⟨outcome, bench⟩ := Prod.mk.inj there
  rw [here, outcome, bench]
  refine ⟨{ frame with resumeAddress := next }, ?held, ?same⟩
  case held => cases level <;> rfl
  case same => cases level <;> rfl

/-- Every accepted call for another page takes the tracked addresses to their offset in that page if the
requested type is that of a page, and the virtual view of the log by whole pages if the requested base has
no offset bits. With any other type no address moves: the call does what it would do without its request,
but leaves nothing pending. -/
theorem raise_relocates {b : Bench} {t : Trap} {o : Outcome} (accepted : (raise t b).result = .ok o)
    (asks : Architecture.AsksToMove b.hart t) :
    (∀ mask, Architecture.offsetMask? (b.hart.read .a2).toNat = some mask →
      Relocation t (fun a => (a &&& mask) ||| b.hart.read .a1) b (raise t b).state o ∧
        (b.hart.read .a1 &&& mask = 0 →
          mask.toNat + 1 ∣ ((raise t b).state.log.virtualBase - b.log.virtualBase).toNat)) ∧
      (Architecture.offsetMask? (b.hart.read .a2).toNat = none →
        Relocation t id b (raise t b).state o ∧
          (raise t b.clearRequest).result = .ok o ∧
          ∃ f, (raise t b.clearRequest).state.frame? (Architecture.level b.hart t) = some f ∧
            (raise t b).state = (raise t b.clearRequest).state.setFrame (Architecture.level b.hart t)
              { f with pending := none }) := by
  obtain ⟨a, admits, served, state⟩ := admits_of_raise accepted
  have logged : a.log = Architecture.recorded b t := log_eq_of_logged? admits.logged
  have moved := relocation_take admits.level.symm asks admits.frame
  rw [← logged, served] at moved
  rw [state]
  constructor
  · intro mask known
    have place : b.hart.requestedMove.apply = fun a => (a &&& mask) ||| b.hart.read .a1 :=
      funext (b.hart.requestedMove.apply_of_mask known)
    have log := log_take { b with log := a.log } a.level a.frame t
    rw [if_pos asks] at log
    rw [place] at moved log
    refine ⟨moved, fun aligned => ?_⟩
    rw [log, logged]
    exact Log.dvd_virtualBase_rebase known aligned (Architecture.recorded b t)
  · intro unknown
    have place : b.hart.requestedMove.apply = id :=
      funext (b.hart.requestedMove.apply_of_none unknown)
    have own : Architecture.level b.hart t = a.level := (trapLevel_eq b.hart t).symm.trans admits.level.symm
    have admits' : b.clearRequest.Admits t a :=
      ⟨admits.idle, admits.level, admits.frame, admits.logged⟩
    obtain ⟨g, held, same⟩ :=
      deed_take_of_id { b with log := a.log } a.level a.frame asks (congrFun place)
    obtain ⟨outcome, bench⟩ := Prod.mk.inj same
    rw [place] at moved
    rw [raise_of_admission (admission_eq_ok_iff.mpr admits'), own]
    exact ⟨moved, congrArg Except.ok (outcome.symm.trans served), g, held, bench⟩

/-- A user program in Supervisor's care that asks to go on in another page, while causes are logged. -/
def movingCall (pageType : Word) : Bench :=
  ((delegatedCall.setRegister .ra 0x80001234).setRegister .t0 0x80000FFF).setRequest
    { op := 3, page := 0x40000000, pageType }

/-- The type of a page is met at 0, and no page has the type 2^32. -/
theorem raise_relocates_movingCall :
    let t := Trap.environmentCall .user 0x1FFC
    (raise t (movingCall 0)).result = .ok (.resumed 0x40000000 .supervisor) ∧
      Architecture.AsksToMove (movingCall 0).hart t ∧
      Relocation t (fun a => (a &&& 0xFFF) ||| 0x40000000) (movingCall 0)
        (raise t (movingCall 0)).state (.resumed 0x40000000 .supervisor) ∧
      0x1000 ∣ ((raise t (movingCall 0)).state.log.virtualBase -
        (movingCall 0).log.virtualBase).toNat ∧
      (raise t (movingCall 0x100000000)).result = .ok (.resumed 0x2000 .supervisor) ∧
      Relocation t id (movingCall 0x100000000) (raise t (movingCall 0x100000000)).state
        (.resumed 0x2000 .supervisor) := by
  intro t
  have accepted : (raise t (movingCall 0)).result = .ok (.resumed 0x40000000 .supervisor) := by decide
  have asks : Architecture.AsksToMove (movingCall 0).hart t := by decide
  have unknown : (raise t (movingCall 0x100000000)).result = .ok (.resumed 0x2000 .supervisor) := by
    decide
  obtain ⟨moved, whole⟩ := (raise_relocates accepted asks).1 0xFFF (by decide)
  exact ⟨accepted, asks, moved, whole (by decide), unknown,
    ((raise_relocates unknown (by decide)).2 (by decide)).1⟩

end Bench

end HartTraps
