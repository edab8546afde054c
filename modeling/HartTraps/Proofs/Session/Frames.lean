import HartTraps.Proofs.Session.Likeness
import HartTraps.Proofs.Trap.Admission
import HartTraps.Proofs.Trap.Ending

/-!
# Frames carry nothing from trap to trap

A frame outlives the trap for which it was filled, but the next trap of its level overwrites all that a
handler reads of it. So no trap is influenced by what earlier ones left in the frames: benches that
differ in the contents of their frames only answer alike, and a level that has taken a trap since holds
the same in both about its last trap.
-/

namespace HartTraps

/-- The frames hold the same about the last trap of their level. What remains is the address of the last
return and the count of traps. -/
structure TrapFrame.Alike (f g : TrapFrame) : Prop where
  saved : g.saved = f.saved
  pending : g.pending = f.pending
  instruction : g.instruction = f.instruction

theorem TrapFrame.Alike.relocated {f g : TrapFrame} (alike : f.Alike g) (move : Move) :
    (f.relocated move).Alike (g.relocated move) := by
  refine ⟨?_, rfl, alike.instruction⟩
  unfold TrapFrame.relocated
  rw [alike.saved]

namespace Bench

/-- The benches agree in all but what their frames hold, and the frames of the levels in `fresh` hold the
same about the last trap. -/
structure SameButFrames (fresh : TrapLevel → Prop) (b c : Bench) : Prop where
  hart : c.hart = b.hart
  log : c.log = b.log
  settings : c.settings = b.settings
  phase : c.phase = b.phase
  defaultVector : c.defaultVector = b.defaultVector
  installed : ∀ level, c.frame? level = none ↔ b.frame? level = none
  alike : ∀ level, fresh level →
    ∀ f g, b.frame? level = some f → c.frame? level = some g → f.Alike g

/-- The levels of `fresh` and those at which one of the events is a trap. -/
def FreshAfter (fresh : TrapLevel → Prop) (events : List Event) (level : TrapLevel) : Prop :=
  fresh level ∨ ∃ t, .trapped level t ∈ events

section FreshAfter

variable {fresh : TrapLevel → Prop} {level : TrapLevel}

theorem FreshAfter.of_quiet {events : List Event} (after : FreshAfter fresh events level)
    (quiet : ∀ t, .trapped level t ∉ events) : fresh level := by
  rcases after with before | ⟨t, member⟩
  · exact before
  · exact absurd member (quiet t)

theorem FreshAfter.of_append {first rest : List Event}
    (after : FreshAfter fresh (first ++ rest) level) :
    FreshAfter (FreshAfter fresh first) rest level := by
  rcases after with before | ⟨t, member⟩
  · exact .inl (.inl before)
  · rcases List.mem_append.mp member with earlier | later
    · exact .inl (.inr ⟨t, earlier⟩)
    · exact .inr ⟨t, later⟩

end FreshAfter

namespace SameButFrames

variable {fresh : TrapLevel → Prop} {b c : Bench}

theorem mono (same : b.SameButFrames fresh c) {fewer : TrapLevel → Prop}
    (sub : ∀ level, fewer level → fresh level) : b.SameButFrames fewer c :=
  { same with alike := fun level few => same.alike level (sub level few) }

/-! ## Changes outside the frames -/

theorem setHart (same : b.SameButFrames fresh c) (hart : Hart) :
    SameButFrames fresh { b with hart } { c with hart } :=
  { same with hart := rfl }

theorem setLog (same : b.SameButFrames fresh c) (log : Log) :
    SameButFrames fresh { b with log } { c with log } :=
  { same with log := rfl }

theorem setPhase (same : b.SameButFrames fresh c) (phase : Phase) :
    SameButFrames fresh { b with phase } { c with phase } :=
  { same with phase := rfl }

theorem rebase (same : b.SameButFrames fresh c) (cursor : Word) :
    (b.rebase cursor).SameButFrames fresh (c.rebase cursor) := by
  unfold Bench.rebase
  rw [same.log]
  exact same.setLog _

theorem relocated (same : b.SameButFrames fresh c) (move : Move) :
    (b.relocated move).SameButFrames fresh (c.relocated move) := by
  unfold Bench.relocated clearRequest
  rw [same.hart, same.log]
  exact (same.setLog _).setHart _

/-! ## Filled frames -/

/-- A frame that is filled alike makes its level fresh. -/
theorem setFrame (same : b.SameButFrames fresh c) (level : TrapLevel) {f g : TrapFrame}
    (alike : f.Alike g) :
    (b.setFrame level f).SameButFrames (fun other => fresh other ∨ other = level)
      (c.setFrame level g) where
  hart := by rw [hart_setFrame, hart_setFrame, same.hart]
  log := by rw [log_setFrame, log_setFrame, same.log]
  settings := by rw [settings_setFrame, settings_setFrame, same.settings]
  phase := by rw [phase_setFrame, phase_setFrame, same.phase]
  defaultVector := by rw [defaultVector_setFrame, defaultVector_setFrame, same.defaultVector]
  installed other := by
    by_cases own : other = level
    · rw [own, frame?_setFrame_self, frame?_setFrame_self]
      exact ⟨nofun, nofun⟩
    · rw [frame?_setFrame_of_ne b f own, frame?_setFrame_of_ne c g own]
      exact same.installed other
  alike other now := by
    by_cases own : other = level
    · rw [own, frame?_setFrame_self, frame?_setFrame_self]
      rintro _ _ ⟨⟩ ⟨⟩
      exact alike
    · rw [frame?_setFrame_of_ne b f own, frame?_setFrame_of_ne c g own]
      exact same.alike other (now.resolve_right own)

theorem leave (same : b.SameButFrames fresh c) (level : TrapLevel) {f g : TrapFrame}
    (alike : f.Alike g) (ret : Word) :
    (c.leave level g ret).outcome = (b.leave level f ret).outcome ∧
      (b.leave level f ret).bench.SameButFrames fresh (c.leave level g ret).bench := by
  have filled := (same.setFrame level (f := { f with resumeAddress := ret })
    (g := { g with saved := f.saved, resumeAddress := ret })
    ⟨rfl, alike.pending, alike.instruction⟩).mono fun _ => Or.inl
  unfold Bench.leave
  rw [same.hart, alike.saved]
  exact ⟨rfl, (filled.setHart _).setPhase .idle⟩

theorem conclude (same : b.SameButFrames fresh c) (level : TrapLevel) {f g : TrapFrame}
    (alike : f.Alike g) (e : Ending) :
    (c.conclude level g e).1 = (b.conclude level f e).1 ∧
      (b.conclude level f e).2.SameButFrames fresh (c.conclude level g e).2 := by
  have setCsrs (csrs : CsrFile) :
      SameButFrames fresh { b with hart := { b.hart with csrs } }
        { c with hart := { c.hart with csrs } } := by
    rw [same.hart]
    exact same.setHart _
  cases e with
  | halt v => exact ⟨rfl, same.setPhase (.halted v)⟩
  | back csrs ret => exact (setCsrs csrs).leave level alike ret
  | moved csrs move next =>
    exact ((setCsrs csrs).relocated move).leave level (alike.relocated move) (move.apply next)

/-- A trap fills the frame of its level with what it finds in the hart. -/
theorem dispatch (same : b.SameButFrames fresh c) (level : TrapLevel) (f g : TrapFrame) (t : Trap) :
    (b.dispatch level f t).SameButFrames (fun other => fresh other ∨ other = level)
      (c.dispatch level g t) := by
  have filled := same.setFrame level (f := f.next (b.hart.enter level t) t)
    (g := g.next (b.hart.enter level t) t) ⟨rfl, rfl, rfl⟩
  unfold Bench.dispatch
  rw [same.hart]
  exact (filled.setHart _).setPhase (.dispatched level.mode)

/-- Whatever the frames held, a trap is served alike and leaves the frame of its level alike. -/
theorem take (same : b.SameButFrames fresh c) (level : TrapLevel) (f g : TrapFrame) (t : Trap) :
    (c.take level g t).outcome = (b.take level f t).outcome ∧
      (b.take level f t).bench.SameButFrames (fun other => fresh other ∨ other = level)
        (c.take level g t).bench := by
  -- The handler sees its frame only after the entry has filled it, and decides by the hart alone.
  obtain ⟨outcome, bench⟩ := (same.dispatch level f g t).conclude level
    (f := f.next (b.hart.enter level t) t) (g := g.next (b.hart.enter level t) t) ⟨rfl, rfl, rfl⟩
    ((b.hart.enter level t).ending b.settings.stepRule level t)
  have left := deed_take b level f t
  have right := deed_take c level g t
  rw [same.hart, same.settings] at right
  rw [← left, ← right] at outcome bench
  exact ⟨outcome, bench⟩

/-! ## Admission -/

theorem trapLevel_eq (same : b.SameButFrames fresh c) (t : Trap) :
    c.hart.trapLevel t = b.hart.trapLevel t := by
  rw [same.hart]

theorem logged?_eq (same : b.SameButFrames fresh c) (cause : Cause) :
    c.logged? cause = b.logged? cause := by
  unfold logged?
  rw [same.settings, same.log]

theorem refuses (same : b.SameButFrames fresh c) {t : Trap} {e : BenchError}
    (refuses : b.Refuses t e) : c.Refuses t e := by
  cases refuses with
  | halted ended => exact .halted (same.phase.trans ended)
  | nested busy => exact .nested (same.phase ▸ busy)
  | noHandler idle absent =>
    rw [← same.trapLevel_eq t] at absent ⊢
    exact .noHandler (same.phase.trans idle) ((same.installed _).mpr absent)
  | logFull idle present lost =>
    rw [← same.trapLevel_eq t] at present
    rw [← same.logged?_eq] at lost
    rw [← same.log]
    exact .logFull (same.phase.trans idle) (present ∘ (same.installed _).mp) lost

theorem admits (same : b.SameButFrames fresh c) {t : Trap} {a : Admission} (admits : b.Admits t a) :
    ∃ g, c.Admits t { a with frame := g } := by
  obtain ⟨idle, level, frame, logged⟩ := admits
  have present : c.frame? a.level ≠ none := by
    intro absent
    rw [(same.installed _).mp absent] at frame
    cases frame
  obtain ⟨g, held⟩ := Option.ne_none_iff_exists'.mp present
  exact ⟨g, same.phase.trans idle, level.trans (same.trapLevel_eq t).symm, held,
    (same.logged?_eq _).trans logged⟩

/-! ## Operations -/

/-- A trap is answered alike. If it is accepted then its level is fresh afterwards. -/
theorem raise (same : b.SameButFrames fresh c) (t : Trap) :
    (raise t b).result = (raise t c).result ∧
      (raise t b).state.SameButFrames (FreshAfter fresh (trapEvents t b)) (raise t c).state := by
  unfold trapEvents
  cases admission : b.admission t with
  | error e =>
    have refused := admission_eq_error_iff.mpr (same.refuses (admission_eq_error_iff.mp admission))
    rw [raise_of_refusal admission, raise_of_refusal refused]
    exact ⟨rfl, same.mono fun _ after => after.of_quiet fun _ => List.not_mem_nil⟩
  | ok a =>
    have admits := admission_eq_ok_iff.mp admission
    obtain ⟨g, admits'⟩ := same.admits admits
    obtain ⟨outcome, bench⟩ := (same.setLog a.log).take a.level a.frame g t
    rw [raise_of_admission admission, raise_of_admission (admission_eq_ok_iff.mpr admits')]
    refine ⟨congrArg Except.ok outcome.symm, bench.mono ?_⟩
    rintro level (before | ⟨u, accepted⟩)
    · exact .inl before
    · rw [List.mem_singleton] at accepted
      cases accepted
      exact .inr admits.level.symm

theorem append (same : b.SameButFrames fresh c) (w : Word) :
    (append w b).result = (append w c).result ∧
      (append w b).state.SameButFrames fresh (append w c).state := by
  unfold Bench.append
  rw [same.log]
  cases b.log.append? w with
  | none => exact ⟨rfl, same⟩
  | some log => exact ⟨rfl, same.setLog log⟩

theorem install (same : b.SameButFrames fresh c) (level : TrapLevel) (base : Word)
    (vectoring : Vectoring) :
    (b.withHandler level base vectoring).SameButFrames fresh (c.withHandler level base vectoring) := by
  have filled := (same.setFrame level (f := {}) (g := {}) ⟨rfl, rfl, rfl⟩).mono fun _ => Or.inl
  unfold withHandler
  rw [same.hart, same.defaultVector]
  exact { filled.setHart _ with defaultVector := rfl }

theorem close (same : b.SameButFrames fresh c) : b.close.SameButFrames fresh c.close := by
  have hart : c.close.hart = b.close.hart := by
    unfold Bench.close
    rw [same.hart, same.defaultVector]
  exact { same with hart, phase := rfl }

theorem likeness (fresh : TrapLevel → Prop) : Likeness (SameButFrames fresh) fun _ => False where
  hart_eq := hart
  setHart := setHart
  install := install
  close := close
  rebase := rebase
  append same w _ := same.append w
  raise same t _ := (same.raise t).imp_right fun after => after.mono fun _ => Or.inl

/-! ## Sessions -/

theorem call (same : b.SameButFrames fresh c) (r : CallRequest) :
    (call r b).state.SameButFrames (FreshAfter fresh (callEvents r b)) (call r c).state := by
  rw [call_apply, call_apply, same.hart]
  exact (((likeness fresh).setRequest same r).raise _).2

theorem terminate (same : b.SameButFrames fresh c) :
    (terminate b).state.SameButFrames (FreshAfter fresh (callEvents closingRequest b))
      (terminate c).state := by
  have result := ((likeness fresh).call same closingRequest fun _ _ => id).1
  exact (terminate_alike (same.call closingRequest) result fun _ _ => close).2

/-- An operation makes the levels fresh at which it brings about a trap. -/
theorem perform (same : b.SameButFrames fresh c) {o : Operation} (direct : o.IsDirect) :
    (o.perform b).state.SameButFrames (FreshAfter fresh (o.ownEvents b)) (o.perform c).state := by
  have unless_trapped (quiet : ∀ level t, .trapped level t ∉ o.ownEvents b) :
      (o.perform b).state.SameButFrames (FreshAfter fresh (o.ownEvents b)) (o.perform c).state :=
    ((likeness fresh).perform direct same fun _ _ => id).2.mono fun level after =>
      after.of_quiet (quiet level)
  cases o with
  | raise t => exact (same.raise t).2
  | call r => exact same.call r
  | terminate => exact same.terminate
  | install mode base vectoring =>
    apply unless_trapped
    intro level t member
    obtain ⟨installed, -, ⟨⟩⟩ := List.mem_map.mp member
  | append w =>
    apply unless_trapped
    intro level t member
    replace member : .trapped level t ∈ appendEvents w b := member
    unfold appendEvents at member
    split at member
    · cases List.mem_singleton.mp member
    · cases member
  | runCase case routine => cases direct
  | _ => exact unless_trapped fun _ _ => List.not_mem_nil

/-- A session makes the levels fresh at which it brings about traps. -/
theorem session {os : List Operation} (direct : ∀ o ∈ os, o.IsDirect) (same : b.SameButFrames fresh c) :
    (Operation.session os b).SameButFrames (FreshAfter fresh (Operation.history os b))
      (Operation.session os c) := by
  -- Each operation may add to the fresh levels, so the induction is over all such sets.
  induction os generalizing fresh b c with
  | nil => exact same.mono fun _ after => after.of_quiet fun _ => List.not_mem_nil
  | cons o os ih =>
    have own : o.IsDirect := direct o List.mem_cons_self
    have first := same.perform own
    have rest := ih (fun later member => direct later (List.mem_cons_of_mem _ member)) first
    rw [Operation.history_cons_of_direct own]
    exact rest.mono fun _ => FreshAfter.of_append

end SameButFrames

/-- What earlier traps left in the frames has no effect: sessions on benches that differ in it give the
same answers and end alike in all else. A level that has taken a trap in the session holds the same
about its last trap in both. -/
theorem frames_unobserved {b c : Bench} (same : b.SameButFrames (fun _ => False) c)
    {os : List Operation} (direct : ∀ o ∈ os, o.IsDirect) :
    (Operation.replies os b).map (·.result) = (Operation.replies os c).map (·.result) ∧
      (Operation.session os b).SameButFrames
        (fun level => ∃ t, .trapped level t ∈ Operation.history os b) (Operation.session os c) := by
  obtain ⟨results, -⟩ := (SameButFrames.likeness _).session direct same fun _ _ _ _ => id
  exact ⟨results, (same.session direct).mono fun _ => Or.inr⟩

/-- A handler that steps over instructions by their length. -/
def stepping : Bench :=
  (start { stepRule := .decoded }).withHandler .machine 0x80000100 .vectored

/-- What a call to end the run might have left, with a compressed instruction. -/
def stale : TrapFrame :=
  { saved := { ra := 0x10, t0 := 0x20 }
    pending := some { op := 0, page := 0, pageType := 0 }
    instruction := some 1
    trapsTaken := 9 }

/-- Neither the old call nor the old instruction steers a trap that comes without an instruction. -/
theorem frames_unobserved_stale :
    stepping.SameButFrames (fun _ => False) (stepping.setFrame .machine stale) ∧
      (∀ o ∈ [Operation.raise (.exception 2 .machine 0x4000)], o.IsDirect) ∧
      let b := Operation.session [.raise (.exception 2 .machine 0x4000)] stepping
      let c := Operation.session [.raise (.exception 2 .machine 0x4000)]
        (stepping.setFrame .machine stale)
      c.phase = .idle ∧ c.hart.pc = 0x4004 ∧
        ∀ f g, b.machineFrame = some f → c.machineFrame = some g → f.Alike g := by
  have same : stepping.SameButFrames (fun _ => False) (stepping.setFrame .machine stale) := by
    refine ⟨rfl, rfl, rfl, rfl, rfl, ?_, fun _ => False.elim⟩
    intro level
    cases level with
    | machine => exact ⟨nofun, nofun⟩
    | supervisor => rfl
  have direct : ∀ o ∈ [Operation.raise (.exception 2 .machine 0x4000)], o.IsDirect := by
    simp [Operation.IsDirect]
  obtain ⟨-, after⟩ := frames_unobserved same direct
  refine ⟨same, direct, ?_, ?_, after.alike .machine ⟨.exception 2 .machine 0x4000, by decide⟩⟩
  · rw [after.phase]
    decide
  · rw [after.hart]
    decide

end Bench

end HartTraps
