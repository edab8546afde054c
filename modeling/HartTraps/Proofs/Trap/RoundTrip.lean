import HartTraps.Proofs.Trap.Closing
import HartTraps.Proofs.Trap.Pages

/-!
# There and back

A program that calls its way through pages keeps nothing of those on the way: two moves come to the second
one (`Moved.trans`). So a program that goes to another page and comes home finds its registers and its log
as they were, whichever levels served its calls and whatever modes it asked for.
-/

namespace HartTraps

namespace Architecture

/-- A call carries its own instruction, which takes four bytes under either rule. -/
theorem next_environmentCall (b : Bench) (mode : Mode) (pc : Word) :
    next b (.environmentCall mode pc) = pc + 4 := by
  show pc + step b (.environmentCall mode pc) = pc + 4
  rw [← length_eq_step]
  show pc + b.settings.stepRule.length (some Trap.callInstruction) = pc + 4
  cases b.settings.stepRule <;> rfl

theorem recorded_of_off {b : Bench} (off : b.settings.recordCauses = false) (t : Trap) :
    recorded b t = b.log := by
  unfold recorded
  rw [off, if_neg Bool.false_ne_true, List.append_nil]

/-- A request asks to move if it is one for another mode and names a page. -/
theorem asksToMove_setRequest_iff (b : Bench) (r : CallRequest) (mode : Mode) (pc : Word) :
    AsksToMove (b.setRequest r).hart (.environmentCall mode pc) ↔
      r.op.toNat ∈ [2, 3, 4] ∧ r.page ≠ 0 := by
  obtain ⟨exception, code⟩ := cause_environmentCall mode pc
  have request := Bench.request_setRequest b r
  have a0 : (b.setRequest r).hart.read .a0 = r.op := congrArg CallRequest.op request
  have a1 : (b.setRequest r).hart.read .a1 = r.page := congrArg CallRequest.page request
  have call : (Trap.callCode mode).toNat ∈ [8, 9, 11] := by cases mode <;> decide
  unfold AsksToMove
  rw [exception, code, a0, a1]
  exact ⟨fun asks => asks.2.2, fun asks => ⟨rfl, call, asks⟩⟩

end Architecture

/-- A cursor that moves twice is where it moved last. -/
theorem Log.rebase_rebase (log : Log) (cursor other : Word) :
    (log.rebase cursor).rebase other = log.rebase other := rfl

namespace Bench

/-- From `b` to `c` the program goes on `step` bytes further in a page, its scratch registers and its log
have moved there too, and nothing was logged. -/
structure Moved (mask page step : Word) (b c : Bench) : Prop where
  pc : c.hart.pc = Architecture.place mask page (b.hart.pc + step)
  ra : c.hart.read .ra = Architecture.place mask page (b.hart.read .ra)
  t0 : c.hart.read .t0 = Architecture.place mask page (b.hart.read .t0)
  log : c.log = b.log.rebase (Architecture.place mask page b.log.virtualCursor)
  settings : c.settings = b.settings

/-- A page on the way leaves no trace. -/
theorem Moved.trans {code : Nat} {mask page other step rest : Word} {b c d : Bench}
    (known : Architecture.offsetMask? code = some mask) (aligned : page &&& mask = 0)
    (first : b.Moved mask page step c) (second : c.Moved mask other rest d) :
    b.Moved mask other (step + rest) d where
  pc := by
    rw [second.pc, first.pc, Architecture.place_add_place aligned known, BitVec.add_assoc]
  ra := by rw [second.ra, first.ra, Architecture.place_place aligned]
  t0 := by rw [second.t0, first.t0, Architecture.place_place aligned]
  log := by
    rw [second.log, first.log, Log.virtualCursor_rebase, Architecture.place_place aligned,
      Log.rebase_rebase]
  settings := second.settings.trans first.settings

/-- A program that moves to the page where it is keeps its registers and its log. -/
theorem Moved.home {mask page step : Word} {b c : Bench} (moved : b.Moved mask page step c)
    (ra : b.hart.read .ra &&& ~~~mask = page) (t0 : b.hart.read .t0 &&& ~~~mask = page)
    (cursor : b.log.virtualCursor &&& ~~~mask = page) :
    c.hart.read .ra = b.hart.read .ra ∧ c.hart.read .t0 = b.hart.read .t0 ∧ c.log = b.log := by
  refine ⟨?ra, ?t0, ?log⟩
  case ra => rw [moved.ra, Architecture.place_of_mem ra]
  case t0 => rw [moved.t0, Architecture.place_of_mem t0]
  case log => rw [moved.log, Architecture.place_of_mem cursor, Log.rebase_virtualCursor]

variable {b : Bench} {mask : Word}

/-- An accepted call for another page moves the program past itself and into that page. -/
theorem moved_of_call {r : CallRequest} {o : Outcome} (off : b.settings.recordCauses = false)
    (known : Architecture.offsetMask? r.pageType.toNat = some mask) (page : r.page ≠ 0)
    (goto : r.op.toNat ∈ [2, 3, 4]) (accepted : (call r b).result = .ok o) :
    b.Moved mask r.page 4 (call r b).state ∧
      ∃ mode, o = .resumed (call r b).state.hart.pc mode := by
  rw [call_apply] at accepted ⊢
  have asks := (Architecture.asksToMove_setRequest_iff b r b.hart.mode b.hart.pc).mpr ⟨goto, page⟩
  have request := request_setRequest b r
  have a1 : (b.setRequest r).hart.read .a1 = r.page := congrArg CallRequest.page request
  have a2 : (b.setRequest r).hart.read .a2 = r.pageType := congrArg CallRequest.pageType request
  rw [← a2] at known
  have moved := relocation_of_raise accepted asks known
  have log := log_of_raise accepted asks known
  rw [Architecture.recorded_of_off (b := b.setRequest r) off, a1] at log
  rw [a1] at moved
  obtain ⟨ra, t0⟩ := moved.scratch
  obtain ⟨mode, outcome⟩ := moved.outcome
  have pc := moved.pc
  rw [← pc] at outcome
  rw [read_setRequest_of_notMem b r (by decide)] at ra t0
  rw [Architecture.next_environmentCall] at pc
  exact ⟨{ pc, ra, t0, log, settings := (footprint_of_raise accepted).settings }, mode, outcome⟩

/-- While no causes are logged, a program that calls for another page and then for the one in which its
scratch registers and the end of its log lie finds these as they were: the words of the log and both of
its bases, and so both of its cursors, are the old ones. It goes on in its page past both calls. A page in
which an address lies has a base without offset bits, so only the page on the way is asked for that. -/
theorem calls_there_and_back {there back : CallRequest} {o o' : Outcome}
    (off : b.settings.recordCauses = false)
    (known : Architecture.offsetMask? there.pageType.toNat = some mask)
    (same : back.pageType = there.pageType)
    (away : there.page ≠ 0) (aligned : there.page &&& mask = 0) (home : back.page ≠ 0)
    (goto : there.op.toNat ∈ [2, 3, 4]) (goto' : back.op.toNat ∈ [2, 3, 4])
    (ra : b.hart.read .ra &&& ~~~mask = back.page) (t0 : b.hart.read .t0 &&& ~~~mask = back.page)
    (cursor : b.log.virtualCursor &&& ~~~mask = back.page)
    (first : (call there b).result = .ok o)
    (second : (call back (call there b).state).result = .ok o') :
    let c := (call back (call there b).state).state
    c.hart.read .ra = b.hart.read .ra ∧ c.hart.read .t0 = b.hart.read .t0 ∧ c.log = b.log ∧
      c.hart.pc = ((b.hart.pc + 8) &&& mask) ||| back.page ∧ ∃ mode, o' = .resumed c.hart.pc mode := by
  intro c
  obtain ⟨leaves, -⟩ := moved_of_call off known away goto first
  obtain ⟨returns, outcome⟩ :=
    moved_of_call (leaves.settings ▸ off) (same ▸ known) home goto' second
  have both : b.Moved mask back.page 8 c := leaves.trans known aligned returns
  obtain ⟨sameRa, sameT0, sameLog⟩ := both.home ra t0 cursor
  exact ⟨sameRa, sameT0, sameLog, both.pc, outcome⟩

/-- A user program with a word in its log and its second call at the end of its page. Its calls go to
Supervisor, those of Supervisor to Machine. -/
def commuter : Bench :=
  let b := (((start {}).withHandler .machine 0x80000100 .vectored).withHandler .supervisor 0x80000300
    .vectored).delegate 0x100 0
  (append 0x2A ((((b.setMode .user).setPc 0x80002FF8).setRegister .ra 0x80002004).setRegister .t0
    0x80002FFF)).state

/-- The two calls are served by different levels, and the sum of the steps leaves the page. -/
theorem calls_there_and_back_commuter :
    let there : CallRequest := { op := 3, page := 0x40000000, pageType := 0 }
    let back : CallRequest := { op := 4, page := 0x80002000, pageType := 0 }
    let b := (call there commuter).state
    (call there commuter).result = .ok (.resumed 0x40000FFC .supervisor) ∧
      (call back b).result = .ok (.resumed 0x80002000 .user) ∧
      (call back b).state.hart.read .ra = commuter.hart.read .ra ∧
      (call back b).state.hart.read .t0 = commuter.hart.read .t0 ∧
      (call back b).state.log = commuter.log ∧ (call back b).state.hart.pc = 0x80002000 := by
  intro there back b
  have first : (call there commuter).result = .ok (.resumed 0x40000FFC .supervisor) := by decide
  have second : (call back b).result = .ok (.resumed 0x80002000 .user) := by decide
  have known : Architecture.offsetMask? there.pageType.toNat = some 0xFFF := rfl
  obtain ⟨ra, t0, log, pc, -⟩ := calls_there_and_back rfl known (by decide) (by decide)
    (by decide) (by decide) (by decide) (by decide) (by decide) (by decide) (by decide) first second
  exact ⟨first, second, ra, t0, log, pc.trans (by decide)⟩

end Bench

end HartTraps
