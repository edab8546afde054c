import HartTraps.Proofs.Trap.Entry

/-!
# How a handler ends

What a handler decides depends on the hart that enters it, on the step rule and on the trap. It depends
neither on the log nor on what earlier traps left in the level's frame. `Hart.ending` is the decision,
`Bench.conclude` carries it out, and `Bench.deed_take` says that a handler does just this. What holds
of every trap is then shown for the three endings.
-/

namespace HartTraps

/-- What was done, without the notes about it. -/
def Served.deed (s : Served) : Outcome × Bench := (s.outcome, s.bench)

@[simp] theorem Served.deed_after (s : Served) (notes : List Note) : (s.after notes).deed = s.deed :=
  rfl

/-! ## Moves -/

/-- Where a move takes an address: to its place in the page if the type of the page is known. -/
def Move.apply (move : Move) (a : Word) : Word :=
  match PageSize.ofCode? move.pageType with
  | some size => size.relocate a move.page
  | none => a

/-- The frame once its addresses have moved and its request is used up. -/
def TrapFrame.relocated (f : TrapFrame) (move : Move) : TrapFrame :=
  { f with saved := { ra := move.apply f.saved.ra, t0 := move.apply f.saved.t0 }, pending := none }

namespace Bench

/-- The bench once the cursor of its log has moved and the request is used up. -/
def relocated (b : Bench) (move : Move) : Bench :=
  { b with log := b.log.rebase (move.apply b.log.virtualCursor) }.clearRequest

/-- A move takes every tracked address along in the same way, and a return follows. -/
theorem leaveMoved_eq (b : Bench) (level : TrapLevel) (f : TrapFrame) (move : Move) (next : Word) :
    (b.leaveMoved level f move next).deed =
      ((b.relocated move).leave level (f.relocated move) (move.apply next)).deed := by
  unfold leaveMoved relocated TrapFrame.relocated Move.apply
  cases PageSize.ofCode? move.pageType with
  | some size => rfl
  | none =>
    dsimp only
    rw [Log.rebase_virtualCursor]
    rfl

end Bench

/-! ## Endings -/

/-- How a handler ends. -/
inductive Ending where
  /-- The run ends. -/
  | halt (v : Verdict)
  /-- The program goes on at `ret`, with these control registers. -/
  | back (csrs : CsrFile) (ret : Word)
  /-- The program goes on at `next`, or at its place in another page if the type of that page is known.
  The request is used up. -/
  | moved (csrs : CsrFile) (move : Move) (next : Word)

/-- The control registers that an ending leaves to the return; a halt leaves those that it found. -/
def Ending.csrs (found : CsrFile) : Ending → CsrFile
  | halt _ => found
  | back csrs _ => csrs
  | moved csrs _ _ => csrs

namespace Hart

/-- How a call ends that would go on at `next`. -/
def callEnding (h : Hart) (level : TrapLevel) (next : Word) : Ending :=
  match CallOp.ofCode? (h.read .a0) with
  | some .pass => .halt .pass
  | some .fail => .halt (.fail (h.read .a1))
  | some (.goto target) =>
    let csrs := (h.csrs.setPreviousMode? level target).getD h.csrs
    if h.read .a1 = 0 then .back csrs next
    else .moved csrs { page := h.read .a1, pageType := h.read .a2 } next
  | none => .back h.csrs next

/-- How the handler ends that the hart has just entered. -/
def ending (h : Hart) (rule : StepRule) (level : TrapLevel) (t : Trap) : Ending :=
  let next := h.csrs.read level.csrs.pc + rule.length t.instruction
  match t.cause.response (.ofVector (h.csrs.read level.csrs.vector)) with
  | .halt => .halt (.fatal t.cause.raw)
  | .resumeNext => .back h.csrs next
  | .resumeCaller => .back h.csrs (h.read .ra)
  | .serveCall => h.callEnding level next

/-- A decision keeps the control registers or requests a mode for the return. -/
theorem csrs_ending_cases (h : Hart) (rule : StepRule) (level : TrapLevel) (t : Trap) :
    (h.ending rule level t).csrs h.csrs = h.csrs ∨
      ∃ target, h.csrs.setPreviousMode? level target =
        some ((h.ending rule level t).csrs h.csrs) := by
  have requested (target : Mode) :
      (h.csrs.setPreviousMode? level target).getD h.csrs = h.csrs ∨
        ∃ target', h.csrs.setPreviousMode? level target' =
          some ((h.csrs.setPreviousMode? level target).getD h.csrs) := by
    cases request : h.csrs.setPreviousMode? level target with
    | none => exact .inl rfl
    | some csrs => exact .inr ⟨target, request⟩
  have called (next : Word) :
      (h.callEnding level next).csrs h.csrs = h.csrs ∨
        ∃ target, h.csrs.setPreviousMode? level target =
          some ((h.callEnding level next).csrs h.csrs) := by
    unfold callEnding
    split
    · exact .inl rfl
    · exact .inl rfl
    · dsimp only
      split
      · exact requested _
      · exact requested _
    · exact .inl rfl
  unfold ending
  dsimp only
  split
  · exact .inl rfl
  · exact .inl rfl
  · exact .inl rfl
  · exact called _

/-- A decision changes no control register but the status register. -/
theorem read_csrs_ending (h : Hart) (rule : StepRule) (level : TrapLevel) (t : Trap) {a : CsrAddress}
    (status : a ≠ .mstatus) :
    ((h.ending rule level t).csrs h.csrs).read a = h.csrs.read a := by
  rcases csrs_ending_cases h rule level t with kept | ⟨target, request⟩
  · rw [kept]
  · exact CsrFile.read_of_setPreviousMode? request status

/-- A decision changes no bit of the status register outside of the level's field. -/
theorem status_csrs_ending (h : Hart) (rule : StepRule) (level : TrapLevel) (t : Trap) :
    ((h.ending rule level t).csrs h.csrs).read .mstatus &&& ~~~CsrFile.previousField level =
      h.csrs.read .mstatus &&& ~~~CsrFile.previousField level := by
  rcases csrs_ending_cases h rule level t with kept | ⟨target, request⟩
  · rw [kept]
  · exact CsrFile.status_of_setPreviousMode? request

end Hart

namespace Bench

/-- Brings a handler of `level` with the frame `f` to its end. -/
def conclude (b : Bench) (level : TrapLevel) (f : TrapFrame) : Ending → Outcome × Bench
  | .halt v => (b.halt v).deed
  | .back csrs ret => ({ b with hart := { b.hart with csrs } }.leave level f ret).deed
  | .moved csrs move next =>
    (({ b with hart := { b.hart with csrs } }.relocated move).leave level (f.relocated move)
      (move.apply next)).deed

/-! ## A trap is brought to its ending -/

section Stages

variable (b : Bench) (level : TrapLevel) (f : TrapFrame)

/-- The phase from which a handler returns does not matter. -/
theorem conclude_beginReturn (e : Ending) :
    (b.beginReturn level).conclude level f e = b.conclude level f e := by
  cases e with
  | halt v => rfl
  | back csrs ret => cases level <;> rfl
  | moved csrs move next => cases level <;> rfl

theorem deed_resume_none :
    ((b.beginReturn level).resume level f none).deed =
      b.conclude level f (.back b.hart.csrs (b.nextAddress level f)) :=
  conclude_beginReturn b level f (.back b.hart.csrs (b.nextAddress level f))

theorem deed_resume_some (move : Move) :
    ((b.beginReturn level).resume level f (some move)).deed =
      b.conclude level f
        (if move.page = 0 then .back b.hart.csrs (b.nextAddress level f)
          else .moved b.hart.csrs move (b.nextAddress level f)) := by
  rw [← conclude_beginReturn]
  unfold resume
  dsimp only
  split
  · rfl
  · exact leaveMoved_eq _ level f move _

/-- A request for a mode that the level cannot hold leaves the control registers alone. -/
theorem deed_serveGoto (target : Mode) (move : Move) :
    (b.serveGoto level f target move).deed =
      b.conclude level f
        (let csrs := (b.hart.csrs.setPreviousMode? level target).getD b.hart.csrs
        if move.page = 0 then .back csrs (b.nextAddress level f)
          else .moved csrs move (b.nextAddress level f)) := by
  unfold serveGoto Hart.setPreviousMode?
  cases request : b.hart.csrs.setPreviousMode? level target with
  | none => exact deed_resume_some b level f move
  | some csrs =>
    have next : csrs.read level.csrs.pc = b.hart.csrs.read level.csrs.pc :=
      CsrFile.read_of_setPreviousMode? request level.csrs_pc_ne_mstatus
    dsimp only [Option.map_some, Option.getD_some]
    rw [deed_resume_some]
    unfold nextAddress
    dsimp only
    rw [next]
    split
    · rfl
    · rfl

theorem deed_serveCall :
    (b.serveCall level f b.hart.request).deed =
      b.conclude level f (b.hart.callEnding level (b.nextAddress level f)) := by
  unfold serveCall Hart.callEnding Hart.request
  dsimp only
  cases CallOp.ofCode? (b.hart.read .a0) with
  | none => exact deed_resume_none b level f
  | some op =>
    cases op with
    | pass => rfl
    | fail => rfl
    | goto target => exact deed_serveGoto b level f target _

end Stages

/-- A trap that is taken does what its handler decides at entry. -/
theorem deed_take (b : Bench) (level : TrapLevel) (f : TrapFrame) (t : Trap) :
    (b.take level f t).deed =
      (b.dispatch level f t).conclude level (f.next (b.hart.enter level t) t)
        ((b.hart.enter level t).ending b.settings.stepRule level t) := by
  have next : (b.dispatch level f t).nextAddress level (f.next (b.hart.enter level t) t) =
      (b.hart.enter level t).csrs.read level.csrs.pc + b.settings.stepRule.length t.instruction := by
    cases level <;> rfl
  simp only [take, Served.deed_after]
  unfold Hart.ending
  dsimp only
  rw [← next]
  cases t.cause.response (.ofVector ((b.hart.enter level t).csrs.read level.csrs.vector)) with
  | halt => rfl
  | resumeNext => exact deed_resume_none _ level _
  | resumeCaller =>
    exact conclude_beginReturn (b.dispatch level f t) level _
      (.back (b.hart.enter level t).csrs ((b.hart.enter level t).read .ra))
  | serveCall => exact deed_serveCall (b.dispatch level f t) level _

/-- The bench that a trap leaves. -/
theorem bench_take (b : Bench) (level : TrapLevel) (f : TrapFrame) (t : Trap) :
    (b.take level f t).bench =
      ((b.dispatch level f t).conclude level (f.next (b.hart.enter level t) t)
        ((b.hart.enter level t).ending b.settings.stepRule level t)).2 :=
  congrArg Prod.snd (deed_take b level f t)

/-! ## The hart after a trap -/

section Concluded

variable {b : Bench} {level : TrapLevel} {f : TrapFrame}

/-- The hart goes on where the outcome says. -/
theorem hart_of_conclude_resumed {e : Ending} {pc : Word} {mode : Mode}
    (resumed : (b.conclude level f e).1 = .resumed pc mode) :
    (b.conclude level f e).2.hart.pc = pc ∧ (b.conclude level f e).2.hart.mode = mode := by
  cases e with
  | halt v => cases resumed
  | back csrs ret =>
    cases resumed
    exact ⟨rfl, rfl⟩
  | moved csrs move next =>
    cases resumed
    exact ⟨rfl, rfl⟩

/-- An ending writes no control register but the exception pc of its level. -/
theorem read_csrs_conclude (e : Ending) {a : CsrAddress} (pc : a ≠ level.csrs.pc) :
    (b.conclude level f e).2.hart.csrs.read a = (e.csrs b.hart.csrs).read a := by
  cases e with
  | halt v => rfl
  | back csrs ret => exact CsrFile.read_write_of_ne pc
  | moved csrs move next => exact CsrFile.read_write_of_ne pc

end Concluded

section Taken

variable {b : Bench} {level : TrapLevel} {f : TrapFrame} {t : Trap}

theorem hart_of_take_resumed {pc : Word} {mode : Mode}
    (resumed : (b.take level f t).outcome = .resumed pc mode) :
    (b.take level f t).bench.hart.pc = pc ∧ (b.take level f t).bench.hart.mode = mode := by
  have outcome := (congrArg Prod.fst (deed_take b level f t)).symm.trans resumed
  rw [bench_take]
  exact hart_of_conclude_resumed outcome

/-- A trap changes no control register but the trap registers of its level and the status register. -/
theorem read_csrs_take {a : CsrAddress}
    (outside : a ∉ [level.csrs.pc, level.csrs.cause, level.csrs.value, .mstatus]) :
    (b.take level f t).bench.hart.csrs.read a = b.hart.csrs.read a := by
  simp only [List.mem_cons, List.not_mem_nil, or_false, not_or] at outside
  obtain ⟨pc, cause, value, status⟩ := outside
  calc (b.take level f t).bench.hart.csrs.read a
      = (((b.hart.enter level t).ending b.settings.stepRule level t).csrs
          (b.hart.enter level t).csrs).read a := by rw [bench_take]; exact read_csrs_conclude _ pc
    _ = (b.hart.enter level t).csrs.read a := Hart.read_csrs_ending _ _ level t status
    _ = b.hart.csrs.read a := Hart.read_csrsAtEntry_of_ne b.hart level t pc cause value status

/-- A trap changes no bit of the status register outside of the field of its level. -/
theorem status_take :
    (b.take level f t).bench.hart.csrs.read .mstatus &&& ~~~CsrFile.previousField level =
      b.hart.csrs.read .mstatus &&& ~~~CsrFile.previousField level := by
  rw [bench_take, read_csrs_conclude _ level.csrs_pc_ne_mstatus.symm]
  exact (Hart.status_csrs_ending _ _ level t).trans (Hart.status_csrsAtEntry b.hart level t)

end Taken

end Bench

end HartTraps
