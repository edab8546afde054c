import HartTraps.Proofs.Session.Installation
import HartTraps.Proofs.Trap.Refusal

/-!
# Which handlers are installed

A handler comes into being by its installation alone: no trap, no call and nothing that is refused
brings a frame about, and none is ever removed. From its last installation on a handler counts the traps
that it takes, also the one with which the run ends.
-/

namespace HartTraps

/-- The event is a trap that was accepted at `level`. -/
def Event.isTrapAt (level : TrapLevel) : Event → Bool
  | trapped taken _ => taken = level
  | _ => false

/-- Somewhere in a run from `b` a handler was installed in `mode`, with success. -/
def Operation.Installed (mode : Mode) (run : List Operation) (b : Bench) : Prop :=
  ∃ before base vectoring after, run = before ++ install mode base vectoring :: after ∧
    ((install mode base vectoring).perform (session before b)).result = .ok .done

namespace Bench

/-- The frame of the handler that runs in `mode`, if there is one. -/
def frameOf? (b : Bench) (mode : Mode) : Option TrapFrame :=
  mode.handlerLevel?.bind b.frame?

/-! ## What a step does to a frame -/

/-- What events do to the frame of `level`: it is made anew, it counts a trap, or it stays. -/
inductive FrameStep (level : TrapLevel) (b : Bench) : List Event → Bench → Prop where
  | installed {c : Bench} (fresh : c.frame? level = some {}) :
      FrameStep level b [.installed level] c
  | trapped {c : Bench} {t : Trap} {f g : TrapFrame} (before : b.frame? level = some f)
      (after : c.frame? level = some g) (counted : g.trapsTaken = f.trapsTaken + 1) :
      FrameStep level b [.trapped level t] c
  | spared {c : Bench} {es : List Event} (quiet : .installed level ∉ es)
      (idle : es.countP (·.isTrapAt level) = 0) (same : c.frame? level = b.frame? level) :
      FrameStep level b es c

/-- A step without events spares every frame that it does not touch. -/
theorem FrameStep.silent {level : TrapLevel} {b c : Bench} (same : c.frame? level = b.frame? level) :
    FrameStep level b [] c :=
  .spared List.not_mem_nil rfl same

theorem frame?_withHandler_self (b : Bench) (level : TrapLevel) (base : Word) (vectoring : Vectoring) :
    (b.withHandler level base vectoring).frame? level = some {} := by
  cases level <;> rfl

theorem frame?_withHandler_of_ne (b : Bench) {level other : TrapLevel} (ne : other ≠ level) (base : Word)
    (vectoring : Vectoring) : (b.withHandler level base vectoring).frame? other = b.frame? other := by
  rw [← frame?_setFrame_of_ne b {} ne]
  cases other <;> rfl

theorem Step.frameStep {b c : Bench} {es : List Event} (step : Step b es c) (level : TrapLevel) :
    FrameStep level b es c := by
  cases step with
  | hart hart => exact .silent (by cases level <;> rfl)
  | install made base vectoring =>
    by_cases own : level = made
    · subst own
      exact .installed (frame?_withHandler_self b level base vectoring)
    · refine .spared ?_ rfl (frame?_withHandler_of_ne b own base vectoring)
      simp [own]
  | @trap t a admits =>
    have settles := take_settles { b with log := a.log } a.level a.frame t
    by_cases own : level = a.level
    · obtain ⟨g, after, counted⟩ := settles.counted
      rw [own]
      exact .trapped admits.frame after counted
    · have same := settles.keeps.frame? level own
      refine .spared (by simp) ?_ (same.trans (by cases level <;> rfl))
      simp [Event.isTrapAt, Ne.symm own]
  | close idle => exact .silent (by cases level <;> rfl)
  | append room => exact .spared (by simp) rfl (by cases level <;> rfl)
  | rebase cursor => exact .silent (by cases level <;> rfl)

/-! ## What a run does to a frame -/

/-- A frame is there if it was there before or its handler was installed since. -/
theorem Steps.frame?_isSome_iff {b c : Bench} {es : List Event} (steps : Steps b es c)
    (level : TrapLevel) :
    (c.frame? level).isSome ↔ (b.frame? level).isSome ∨ .installed level ∈ es := by
  induction steps with
  | refl => simp
  | step one _ ih =>
    rw [ih, List.mem_append, ← or_assoc]
    refine or_congr_left ?_
    cases one.frameStep level with
    | installed fresh => simp [fresh]
    | trapped before after counted => simp [before, after]
    | spared quiet idle same => simp [quiet, same]

/-- Without another installation a handler counts the traps that it takes. -/
theorem Steps.trapsTaken {b c : Bench} {es : List Event} (steps : Steps b es c) {level : TrapLevel}
    (quiet : .installed level ∉ es) {f : TrapFrame} (held : b.frame? level = some f) :
    ∃ g, c.frame? level = some g ∧
      g.trapsTaken = f.trapsTaken + BitVec.ofNat 64 (es.countP (·.isTrapAt level)) := by
  induction steps generalizing f with
  | refl => exact ⟨f, held, (BitVec.add_zero _).symm⟩
  | step one _ ih =>
    rw [List.mem_append, not_or] at quiet
    rw [List.countP_append]
    cases one.frameStep level with
    | installed fresh => exact absurd List.mem_cons_self quiet.1
    | @trapped _ t f' g before after counted =>
      cases held.symm.trans before
      obtain ⟨h, last, total⟩ := ih quiet.2 after
      refine ⟨h, last, ?_⟩
      have one : [Event.trapped level t].countP (·.isTrapAt level) = 1 := by simp [Event.isTrapAt]
      rw [total, counted, one, BitVec.ofNat_add, BitVec.add_assoc]
      rfl
    | spared _ idle same =>
      rw [idle, Nat.zero_add]
      exact ih quiet.2 (same.trans held)

/-! ## Sessions -/

theorem frameOf?_mode (b : Bench) (level : TrapLevel) : b.frameOf? level.mode = b.frame? level := by
  rw [frameOf?, level.handlerLevel?_mode]
  rfl

theorem frameOf?_start (settings : Settings) (mode : Mode) : (start settings).frameOf? mode = none := by
  cases mode <;> rfl

/-- A run brings the frame of a mode about if it installs a handler there. -/
theorem frameOf?_session_isSome_iff {run : List Operation} (plain : ∀ o ∈ run, o.IsPlain) {b : Bench}
    (fits : b.log.Fits) (mode : Mode) :
    ((Operation.session run b).frameOf? mode).isSome ↔
      (b.frameOf? mode).isSome ∨ Operation.Installed mode run b := by
  cases owner : mode.handlerLevel? with
  | none =>
    have never : ¬Operation.Installed mode run b := by
      rintro ⟨before, base, vectoring, after, -, done⟩
      obtain ⟨level, rfl⟩ := Operation.perform_install_eq_ok_iff.mp done
      cases level <;> cases owner
    simp [frameOf?, owner, never]
  | some level =>
    obtain rfl := Mode.handlerLevel?_eq_some_iff.mp owner
    have steps := Operation.steps_ownHistory plain fits
    rw [frameOf?_mode, frameOf?_mode, steps.frame?_isSome_iff level, Operation.installed_mem_ownHistory_iff]
    refine or_congr_right ⟨?_, ?_⟩
    · rintro ⟨o, among, base, vectoring, rfl⟩
      obtain ⟨before, after, split⟩ := List.mem_iff_append.mp among
      exact ⟨before, base, vectoring, after, split, Operation.perform_install_eq_ok_iff.mpr ⟨level, rfl⟩⟩
    · rintro ⟨before, base, vectoring, after, rfl, -⟩
      exact ⟨_, List.mem_append_right _ List.mem_cons_self, base, vectoring, rfl⟩

/-- From its last installation on a handler counts the traps that are accepted at its level. -/
theorem trapsTaken_of_last {before after : List Operation} {base : Word} {vectoring : Vectoring}
    {level : TrapLevel} {b : Bench}
    (plain : ∀ o ∈ before ++ .install level.mode base vectoring :: after, o.IsPlain)
    (fits : b.log.Fits) (last : ∀ o ∈ after, ¬o.Installs level) :
    ∃ f, (Operation.session (before ++ .install level.mode base vectoring :: after) b).frame? level = some f ∧
      f.trapsTaken = BitVec.ofNat 64 ((Operation.ownHistory after
        (Operation.session (before ++ [.install level.mode base vectoring]) b)).countP (·.isTrapAt level)) := by
  have quiet := Operation.installed_notMem_ownHistory last
    (Operation.session (before ++ [.install level.mode base vectoring]) b)
  have fresh : (Operation.session (before ++ [.install level.mode base vectoring]) b).frame? level =
      some {} := by
    rw [Operation.session_append]
    cases level <;> rfl
  obtain ⟨f, held, total⟩ := (Operation.steps_since plain fits).trapsTaken quiet fresh
  refine ⟨f, held, ?_⟩
  rw [total]
  exact BitVec.zero_add _

/-- After any tasks, and any operations since, a handler is there exactly if somewhere the run has installed
it with success. Then it has counted the traps that were accepted at its level since it was last installed.
A trap is refused for want of a handler exactly if its level has never had one. -/
theorem handlers_of_session (settings : Settings) (ts : List Task) (os : List Operation) :
    let b := Operation.session os (Task.session ts (start settings))
    let run := Operation.fullCourse (Task.fullCourse ts (start settings) ++ os) (start settings)
    b = Operation.session run (start settings) ∧
      (∀ mode, (b.frameOf? mode).isSome ↔ Operation.Installed mode run (start settings)) ∧
      (∀ level t, (raise t b).result = .error (.noHandler level) ↔
        b.phase = .idle ∧ b.hart.trapLevel t = level ∧
          ¬Operation.Installed level.mode run (start settings)) ∧
      (∀ (o : Operation) mode, ((o.perform b).state.frameOf? mode).isSome ↔
        (b.frameOf? mode).isSome ∨ Operation.Installed mode (o.course b) b) ∧
      ∀ level before base vectoring after,
        run = before ++ .install level.mode base vectoring :: after →
        (∀ o ∈ after, ¬o.Installs level) →
        let since := Operation.ownHistory after
          (Operation.session (before ++ [.install level.mode base vectoring]) (start settings))
        ∃ f, b.frame? level = some f ∧
          (since.countP (·.isTrapAt level) < 0x10000000000000000 →
            f.trapsTaken.toNat = since.countP (·.isTrapAt level)) := by
  intro b run
  have whole : b = Operation.session run (start settings) := by
    rw [Operation.session_fullCourse]
    exact Task.session_eq ts os (start settings)
  have plain : ∀ o ∈ run, o.IsPlain := by
    intro o among
    obtain ⟨_, -, _, member⟩ := Operation.course_of_mem_fullCourse among
    exact Operation.isPlain_of_mem_course member
  have fits := fits_start settings
  have present (mode : Mode) :
      (b.frameOf? mode).isSome ↔ Operation.Installed mode run (start settings) := by
    rw [whole, frameOf?_session_isSome_iff plain fits mode, frameOf?_start]
    simp
  refine ⟨whole, present, ?absent, ?created, ?counted⟩
  case absent =>
    intro level t
    rw [← present, frameOf?_mode, Option.not_isSome_iff_eq_none, raise_eq_noHandler_iff, ← trapLevel_eq]
    constructor
    · rintro ⟨idle, rfl, none⟩
      exact ⟨idle, rfl, none⟩
    · rintro ⟨idle, rfl, none⟩
      exact ⟨idle, rfl, none⟩
  case created =>
    intro o mode
    have fitting : b.log.Fits := (Task.steps_session ts os fits).logs.fits fits
    rw [← Operation.session_course]
    exact frameOf?_session_isSome_iff (fun _ => Operation.isPlain_of_mem_course) fitting mode
  case counted =>
    intro level before base vectoring after split last since
    obtain ⟨f, held, total⟩ := trapsTaken_of_last (split ▸ plain) fits last
    refine ⟨f, ?_, ?_⟩
    · rw [whole, split]
      exact held
    · intro few
      rw [total, BitVec.toNat_ofNat]
      exact Nat.mod_eq_of_lt few

/-- A handler that is installed again starts to count anew; the trap with which the run ends counts, the
one that is refused afterwards does not. -/
example :
    ((Operation.session
      [.install .machine 0x100 .direct, .raise ⟨⟨2⟩, .machine, 0, none, none⟩,
        .install .machine 0x200 .direct, .raise ⟨⟨2⟩, .machine, 0, none, none⟩,
        .raise ⟨⟨10⟩, .machine, 0, none, none⟩, .raise ⟨⟨2⟩, .machine, 0, none, none⟩]
      (start {})).frame? .machine).map (·.trapsTaken) = some 2 := by
  decide

end Bench

end HartTraps
