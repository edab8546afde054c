import HartTraps.Proofs.Session.Operations

/-!
# Installations in a run

Only the operation that installs a handler leads to the event of an installation, and it does so exactly
if its mode can own a handler; then it also succeeds.
-/

namespace HartTraps

theorem Mode.handlerLevel?_eq_some_iff {mode : Mode} {level : TrapLevel} :
    mode.handlerLevel? = some level ↔ mode = level.mode := by
  constructor
  · intro owns
    cases mode with
    | machine =>
      cases owns
      rfl
    | supervisor =>
      cases owns
      rfl
    | user => cases owns
  · rintro rfl
    exact level.handlerLevel?_mode

namespace Bench

variable (level : TrapLevel)

theorem installed_notMem_trapEvents (t : Trap) (b : Bench) : .installed level ∉ trapEvents t b := by
  unfold trapEvents
  split <;> simp

theorem installed_notMem_appendEvents (w : Word) (b : Bench) :
    .installed level ∉ appendEvents w b := by
  unfold appendEvents
  split <;> simp

theorem installed_notMem_routineEvents (case : TestCase) (b : Bench) (routine : Routine) :
    .installed level ∉ routineEvents case b routine := by
  cases routine with
  | goto target => exact installed_notMem_trapEvents level _ _
  | finish => exact installed_notMem_trapEvents level _ _
  | exchangeMprv => exact installed_notMem_appendEvents level _ b
  | setPmpConfig n => exact installed_notMem_appendEvents level _ b
  | setPmpAddress n => exact installed_notMem_appendEvents level _ b
  | _ => exact List.not_mem_nil

end Bench

namespace Operation

open Bench

variable {level : TrapLevel}

/-- The operation installs a handler at `level`. -/
def Installs (level : TrapLevel) (o : Operation) : Prop :=
  ∃ base vectoring, o = install level.mode base vectoring

theorem installed_mem_ownEvents_iff {o : Operation} {b : Bench} :
    .installed level ∈ o.ownEvents b ↔ o.Installs level := by
  constructor
  · intro member
    cases o with
    | install mode base vectoring =>
      obtain ⟨owned, among, same⟩ := List.mem_map.mp member
      cases same
      have owns := Mode.handlerLevel?_eq_some_iff.mp (Option.mem_toList.mp among)
      exact ⟨base, vectoring, owns ▸ rfl⟩
    | raise t => exact absurd member (installed_notMem_trapEvents level t b)
    | call r => exact absurd member (installed_notMem_trapEvents level _ _)
    | terminate => exact absurd member (installed_notMem_trapEvents level _ _)
    | append w => exact absurd member (installed_notMem_appendEvents level w b)
    | runCase case routine => exact absurd member (installed_notMem_routineEvents level case b routine)
    | _ => cases member
  · rintro ⟨base, vectoring, rfl⟩
    refine List.mem_map.mpr ⟨level, ?_, rfl⟩
    rw [level.handlerLevel?_mode]
    exact List.mem_singleton_self level

theorem installed_mem_ownHistory_iff {os : List Operation} {b : Bench} :
    .installed level ∈ ownHistory os b ↔ ∃ o ∈ os, o.Installs level := by
  induction os generalizing b with
  | nil => simp [ownHistory]
  | cons o os ih =>
    rw [ownHistory, List.mem_append, installed_mem_ownEvents_iff, ih]
    simp only [List.mem_cons, exists_eq_or_imp]

/-- Operations that install nothing at `level` have no event of such an installation. -/
theorem installed_notMem_ownHistory {os : List Operation} (quiet : ∀ o ∈ os, ¬o.Installs level)
    (b : Bench) : .installed level ∉ ownHistory os b := by
  rw [installed_mem_ownHistory_iff]
  rintro ⟨o, among, installs⟩
  exact quiet o among installs

/-- From each of its operations on a run takes steps with the events since. -/
theorem steps_since {before after : List Operation} {o : Operation} {b : Bench}
    (plain : ∀ part ∈ before ++ o :: after, part.IsPlain) (fits : b.log.Fits) :
    (session (before ++ [o]) b).Steps (ownHistory after (session (before ++ [o]) b))
      (session (before ++ o :: after) b) := by
  rw [List.append_cons before o after] at plain ⊢
  rw [session_append (before ++ [o]) after]
  -- A reload after the operation gives the bench back only if its log still fits.
  have earlier := steps_ownHistory (fun part among => plain part (List.mem_append_left _ among)) fits
  exact steps_ownHistory (fun part among => plain part (List.mem_append_right _ among))
    (earlier.logs.fits fits)

/-- An installation succeeds exactly if its mode can own a handler. -/
theorem perform_install_eq_ok_iff {mode : Mode} {base : Word} {vectoring : Vectoring} {b : Bench} :
    ((install mode base vectoring).perform b).result = .ok .done ↔
      ∃ level : TrapLevel, mode = level.mode := by
  constructor
  · intro done
    cases mode with
    | machine => exact ⟨.machine, rfl⟩
    | supervisor => exact ⟨.supervisor, rfl⟩
    | user => cases done
  · rintro ⟨level, rfl⟩
    cases level <;> rfl

end Operation

end HartTraps
