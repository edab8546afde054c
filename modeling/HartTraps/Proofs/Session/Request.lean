import HartTraps.Proofs.Trap.Refusal
import HartTraps.Proofs.Trap.Relocation
import HartTraps.Session

/-!
# Requests to move are used once

A program asks for another page in a1. The call that is served takes this request out of the registers,
and no trap ever puts one there. So of all traps that are raised while nothing else writes a general
register, whatever they are and at whatever levels they are served, at most one moves the program, and
every later call resumes just past itself.
-/

namespace HartTraps

/-- A trap that was raised, and the bench that it found. -/
structure Raised where
  before : Bench
  trap : Trap

namespace Raised

/-- What became of the trap. -/
def reply (r : Raised) : Reply Bench Outcome :=
  Bench.raise r.trap r.before

/-- The trap resumes at an address that another page base in a1 would change; 0 is no page base. -/
def FollowsPage (r : Raised) : Prop :=
  r.before.hart.read .a1 ≠ 0 ∧
    ∃ page pc mode pc' mode', page ≠ 0 ∧ r.reply.result = .ok (.resumed pc mode) ∧
      (Bench.raise r.trap (r.before.setRegister .a1 page)).result = .ok (.resumed pc' mode') ∧
      pc' ≠ pc

/-- The trap changes a scratch register or the virtual base of the log, or it resumes in a page from a1. -/
def Relocates (r : Raised) : Prop :=
  r.reply.state.hart.read .ra ≠ r.before.hart.read .ra ∨
    r.reply.state.hart.read .t0 ≠ r.before.hart.read .t0 ∨
    r.reply.state.log.virtualBase ≠ r.before.log.virtualBase ∨
    r.FollowsPage

/-- The trap is a call, whatever it asks for. -/
def IsCall (r : Raised) : Prop :=
  Architecture.isInterrupt r.trap = false ∧ Architecture.code r.trap ∈ [8, 9, 11]

/-- The trap asked to move and the program went on. -/
def UsesRequest (r : Raised) : Prop :=
  Architecture.AsksToMove r.before.hart r.trap ∧ ∃ pc mode, r.reply.result = .ok (.resumed pc mode)

end Raised

namespace Operation

/-- The trap that an operation raises. -/
def trap? : Operation → Option Trap
  | raise trap => some trap
  | _ => none

/-- The traps that a session raises, in order. -/
def raised : List Operation → Bench → List Raised
  | [], _ => []
  | operation :: rest, b =>
    (operation.trap?.map (Raised.mk b)).toList ++ raised rest (operation.perform b).state

/-- Between its traps a session writes no general register. -/
def Unwritten : List Operation → Bench → Prop
  | [], _ => True
  | operation :: rest, b =>
    (operation.trap? = none →
      (operation.perform b).state.hart.registers = b.hart.registers) ∧
        Unwritten rest (operation.perform b).state

end Operation

namespace Bench

variable (b : Bench) {r : Register} {w : Word}

theorem read_setRegister_self (writable : r ≠ Register.zero) : (b.setRegister r w).hart.read r = w :=
  RegFile.read_write_self writable

theorem read_setRegister_of_ne {s : Register} (other : s ≠ r) :
    (b.setRegister r w).hart.read s = b.hart.read s :=
  RegFile.read_write_of_ne other

theorem requestedMove_setRegister (page : Word) :
    (b.setRegister .a1 page).hart.requestedMove = { b.hart.requestedMove with page } := by
  unfold Hart.requestedMove
  rw [b.read_setRegister_self (by decide), b.read_setRegister_of_ne (by decide)]

end Bench

/-! ## Where a trap resumes that moves nothing -/

namespace Architecture

/-- Where a trap resumes in place: at the return address or past its instruction. -/
def inPlace (b : Bench) (t : Trap) : Word :=
  if isInterrupt t = false ∧ code t ∈ [1, 12] then b.hart.read .ra else next b t

variable {b : Bench} {t : Trap} {pc : Word} {mode : Mode}

theorem pc_of_callOutcome (stays : (b.hart.read .a0).toNat ∈ [2, 3, 4] → b.hart.read .a1 = 0)
    (resumed : callOutcome b t = .resumed pc mode) : pc = next b t := by
  unfold callOutcome at resumed
  generalize (b.hart.read .a0).toNat = op at resumed stays
  match op with
  | 0 | 1 => cases resumed
  | 2 | 3 | 4 =>
    have past : destination b t = next b t := if_pos (stays (by decide))
    rw [past] at resumed
    exact (Outcome.resumed.inj resumed).1.symm
  | op + 5 => exact (Outcome.resumed.inj resumed).1.symm

/-- A trap that does not ask to move resumes in place if it resumes. -/
theorem pc_of_outcome (stays : ¬AsksToMove b.hart t) (resumed : outcome b t = .resumed pc mode) :
    pc = inPlace b t := by
  unfold outcome at resumed
  cases kind : isInterrupt t with
  | true =>
    rw [if_pos kind] at resumed
    have past : inPlace b t = next b t := if_neg fun back => by cases kind.symm.trans back.1
    unfold interruptOutcome at resumed
    dsimp only at resumed
    split at resumed
    · exact (Outcome.resumed.inj resumed).1.symm.trans past.symm
    · cases resumed
  | false =>
    have called (call : code t ∈ [8, 9, 11]) (asks : (b.hart.read .a0).toNat ∈ [2, 3, 4]) :
        b.hart.read .a1 = 0 :=
      Decidable.byContradiction fun page => stays ⟨kind, call, asks, page⟩
    rw [if_neg (by rw [kind]; exact Bool.false_ne_true)] at resumed
    unfold exceptionOutcome at resumed
    unfold inPlace
    rw [kind]
    generalize code t = code at resumed called
    match code with
    | 2 | 5 | 7 | 13 | 15 => exact (Outcome.resumed.inj resumed).1.symm
    | 1 | 12 => exact (Outcome.resumed.inj resumed).1.symm
    | 8 | 9 | 11 => exact pc_of_callOutcome (called (by decide)) resumed
    | 0 | 3 | 4 | 6 | 10 | 14 => cases resumed
    | code + 16 => cases resumed

/-- The masks of the pages that exist lie in the lower half of a word. -/
theorem exists_offsetMask {code : Nat} (known : code ≤ 3) :
    ∃ mask, offsetMask? code = some mask ∧ mask.msb = false :=
  match code with
  | 0 | 1 | 2 | 3 => ⟨_, rfl, by decide⟩
  | _ + 4 => by omega

/-- Which page is asked for does not matter to whether one is. -/
theorem asksToMove_setRegister (page : b.hart.read .a1 ≠ 0) {other : Word} (base : other ≠ 0) (t : Trap) :
    AsksToMove (b.setRegister .a1 other).hart t ↔ AsksToMove b.hart t := by
  have a0 : (b.setRegister .a1 other).hart.read .a0 = b.hart.read .a0 :=
    b.read_setRegister_of_ne (by decide)
  have a1 : (b.setRegister .a1 other).hart.read .a1 = other := b.read_setRegister_self (by decide)
  unfold AsksToMove
  rw [a0, a1]
  simp only [ne_eq, page, base]

end Architecture

namespace Bench

variable {b : Bench} {t : Trap}

/-- A call that resumes without asking to move resumes past itself. -/
theorem pc_of_call {pc : Word} {mode : Mode} (call : Architecture.code t ∈ [8, 9, 11])
    (stays : ¬Architecture.AsksToMove b.hart t)
    (resumed : (raise t b).result = .ok (.resumed pc mode)) : pc = Architecture.next b t := by
  rw [Architecture.pc_of_outcome stays (outcome_of_raise resumed)]
  refine if_neg fun back => ?_
  have other := back.2
  simp only [List.mem_cons, List.not_mem_nil, or_false] at call other
  omega

/-- A call for another page that resumes does so where its move leads. -/
theorem pc_of_move {pc : Word} {mode : Mode} (asks : Architecture.AsksToMove b.hart t)
    (resumed : (raise t b).result = .ok (.resumed pc mode)) :
    pc = b.hart.requestedMove.apply (Architecture.next b t) := by
  obtain ⟨mode', leads⟩ := Architecture.outcome_of_asksToMove asks
  rw [outcome_of_raise resumed] at leads
  exact (Outcome.resumed.inj leads).1

/-- No general register decides whether a trap is accepted. -/
theorem accepted_setRegister {o : Outcome} (accepted : (raise t b).result = .ok o) (r : Register)
    (w : Word) : ∃ o', (raise t (b.setRegister r w)).result = .ok o' := by
  obtain ⟨a, admits, -, -⟩ := admits_of_raise accepted
  have admits' : (b.setRegister r w).Admits t a :=
    ⟨admits.idle, admits.level, admits.frame, admits.logged⟩
  rw [raise_of_admission (admission_eq_ok_iff.mpr admits')]
  exact ⟨_, rfl⟩

/-! ## What a trap does to a request -/

/-- No trap puts a request into a1. -/
theorem read_a1_of_raise (used : b.hart.read .a1 = 0) (t : Trap) :
    (raise t b).state.hart.read .a1 = 0 := by
  have stays : ¬Architecture.AsksToMove b.hart t := fun asks => asks.2.2.2 used
  cases answer : (raise t b).result with
  | error e =>
    rw [raise_atomic t b e answer]
    exact used
  | ok o =>
    have kept := (footprint_of_raise answer).registers stays
    exact (congrArg (RegFile.read · .a1) kept).trans used

end Bench

namespace Raised

/-- There are page bases in either half of the addresses. -/
theorem exists_other_half (page : Word) : ∃ other : Word, other ≠ 0 ∧ other.msb ≠ page.msb := by
  cases page.msb with
  | true => exact ⟨1, by decide, by decide⟩
  | false => exact ⟨1 <<< 63, by decide, by decide⟩

variable {r : Raised}

/-- A trap that resumes in a page from a1 asked to move. -/
theorem FollowsPage.asks (follows : r.FollowsPage) :
    Architecture.AsksToMove r.before.hart r.trap := by
  obtain ⟨page, other, pc, mode, pc', mode', base, resumed, resumed', apart⟩ := follows
  refine Decidable.byContradiction fun stays => apart ?_
  have stays' : ¬Architecture.AsksToMove (r.before.setRegister .a1 other).hart r.trap :=
    fun asks => stays ((Architecture.asksToMove_setRegister page base r.trap).mp asks)
  have ra : (r.before.setRegister .a1 other).hart.read .ra = r.before.hart.read .ra :=
    r.before.read_setRegister_of_ne (by decide)
  have here : pc = Architecture.inPlace r.before r.trap :=
    Architecture.pc_of_outcome stays (Bench.outcome_of_raise resumed)
  have there : pc' = Architecture.inPlace (r.before.setRegister .a1 other) r.trap :=
    Architecture.pc_of_outcome stays' (Bench.outcome_of_raise resumed')
  rw [here, there]
  unfold Architecture.inPlace
  rw [ra]
  rfl

/-- A call that resumes in a page from a1 asked for a type of page that exists. -/
theorem FollowsPage.known (follows : r.FollowsPage) : (r.before.hart.read .a2).toNat ≤ 3 := by
  have asks := follows.asks
  obtain ⟨page, other, pc, mode, pc', mode', base, resumed, resumed', apart⟩ := follows
  refine Decidable.byContradiction fun unknown => apart ?_
  have asks' := (Architecture.asksToMove_setRegister page base r.trap).mpr asks
  have lost : 3 < (r.before.hart.read .a2).toNat := Nat.lt_of_not_le unknown
  rw [Bench.pc_of_move asks resumed, Bench.pc_of_move asks' resumed',
    r.before.requestedMove_setRegister, Move.apply_of_lt lost, Move.apply_of_lt lost]
  rfl

/-- A call for a page that exists resumes in it. -/
theorem followsPage_of_asks (asks : Architecture.AsksToMove r.before.hart r.trap)
    (known : (r.before.hart.read .a2).toNat ≤ 3) {o : Outcome} (accepted : r.reply.result = .ok o) :
    r.FollowsPage := by
  have page : r.before.hart.read .a1 ≠ 0 := asks.2.2.2
  obtain ⟨other, base, apart⟩ := exists_other_half (r.before.hart.read .a1)
  obtain ⟨mask, type, narrow⟩ := Architecture.exists_offsetMask known
  have asks' := (Architecture.asksToMove_setRegister page base r.trap).mpr asks
  obtain ⟨o', accepted'⟩ := Bench.accepted_setRegister accepted .a1 other
  obtain ⟨mode, leads⟩ := Architecture.outcome_of_asksToMove asks
  obtain ⟨mode', leads'⟩ := Architecture.outcome_of_asksToMove asks'
  rw [Bench.outcome_of_raise accepted] at leads
  rw [Bench.outcome_of_raise accepted'] at leads'
  subst leads leads'
  refine ⟨page, other, _, mode, _, mode', base, accepted, accepted', fun same => apart ?_⟩
  rw [r.before.requestedMove_setRegister, Move.apply_of_mask _ type, Move.apply_of_mask _ type] at same
  -- The upper half is decided by the page base alone.
  have half := congrArg BitVec.msb same
  rwa [BitVec.msb_or, BitVec.msb_or, BitVec.msb_and, BitVec.msb_and, narrow, Bool.and_false,
    Bool.and_false, Bool.false_or, Bool.false_or] at half

namespace Relocates

variable (relocates : r.Relocates)

include relocates

/-- A refused trap moves nothing. -/
theorem accepted : ∃ o, r.reply.result = .ok o := by
  cases answer : r.reply.result with
  | ok o => exact ⟨o, rfl⟩
  | error e =>
    have same : r.reply.state = r.before := Bench.raise_atomic r.trap r.before e answer
    unfold Relocates at relocates
    rw [same] at relocates
    rcases relocates with ra | t0 | virtualBase | ⟨-, _, _, _, _, _, -, resumed, -⟩
    · exact absurd rfl ra
    · exact absurd rfl t0
    · exact absurd rfl virtualBase
    · cases answer.symm.trans resumed

/-- A trap that does not ask to move moves nothing. -/
theorem asks : Architecture.AsksToMove r.before.hart r.trap := by
  obtain ⟨o, accepted⟩ := relocates.accepted
  have footprint := Bench.footprint_of_raise accepted
  refine Decidable.byContradiction fun stays => ?_
  have kept := footprint.registers stays
  rcases relocates with ra | t0 | virtualBase | follows
  · exact ra (congrArg (RegFile.read · .ra) kept)
  · exact t0 (congrArg (RegFile.read · .t0) kept)
  · exact virtualBase (footprint.virtualBase fun moves => stays moves.1)
  · exact stays follows.asks

/-- A call for a type of page that does not exist moves nothing. -/
theorem known : (r.before.hart.read .a2).toNat ≤ 3 := by
  obtain ⟨o, accepted⟩ := relocates.accepted
  have footprint := Bench.footprint_of_raise accepted
  refine Decidable.byContradiction fun unknown => ?_
  obtain ⟨ra, t0⟩ := footprint.scratch (Nat.lt_of_not_le unknown)
  rcases relocates with moved | moved | moved | follows
  · exact moved ra
  · exact moved t0
  · exact moved (footprint.virtualBase fun moves => unknown moves.2)
  · exact unknown follows.known

/-- A trap that moves the program uses up its request. -/
theorem used : r.reply.state.hart.read .a1 = 0 := by
  obtain ⟨o, accepted⟩ := relocates.accepted
  exact ((Bench.footprint_of_raise accepted).request relocates.asks).1

end Relocates

/-- The traps that move the program are the accepted calls for a page that exists. -/
theorem relocates_iff :
    r.Relocates ↔ Architecture.AsksToMove r.before.hart r.trap ∧
      (r.before.hart.read .a2).toNat ≤ 3 ∧ ∃ o, r.reply.result = .ok o :=
  ⟨fun relocates => ⟨relocates.asks, relocates.known, relocates.accepted⟩,
    fun ⟨asks, known, _, accepted⟩ => .inr (.inr (.inr (followsPage_of_asks asks known accepted)))⟩

/-- A call for another page that is served uses up its request. -/
theorem UsesRequest.used (uses : r.UsesRequest) : r.reply.state.hart.read .a1 = 0 := by
  obtain ⟨asks, pc, mode, resumed⟩ := uses
  exact ((Bench.footprint_of_raise resumed).request asks).1

end Raised

/-! ## What a session does to a request -/

namespace Operation

variable {os : List Operation} {b : Bench}

theorem state_of_trap? {o : Operation} {t : Trap} (trap : o.trap? = some t) (b : Bench) :
    (o.perform b).state = (Bench.raise t b).state := by
  cases o with
  | raise =>
    cases trap
    rfl
  | _ => cases trap

/-- No operation puts a request into a1, if only traps write general registers. -/
theorem read_a1_of_perform {o : Operation}
    (kept : o.trap? = none → (o.perform b).state.hart.registers = b.hart.registers)
    (used : b.hart.read .a1 = 0) : (o.perform b).state.hart.read .a1 = 0 := by
  cases trap : o.trap? with
  | none => exact (congrArg (RegFile.read · .a1) (kept trap)).trans used
  | some t =>
    rw [state_of_trap? trap]
    exact Bench.read_a1_of_raise used t

/-- Once a1 is 0 every later trap finds it so. -/
theorem read_a1_of_raised (unwritten : Unwritten os b) (used : b.hart.read .a1 = 0) :
    ∀ r ∈ raised os b, r.before.hart.read .a1 = 0 := by
  induction os generalizing b with
  | nil => exact fun r member => absurd member List.not_mem_nil
  | cons o os ih =>
    obtain ⟨kept, later⟩ := unwritten
    intro r member
    rcases List.mem_append.mp member with here | after
    · obtain ⟨t, -, rfl⟩ := Option.map_eq_some_iff.mp (Option.mem_toList.mp here)
      exact used
    · exact ih later (read_a1_of_perform kept used) r after

/-- After a trap that leaves no request there is none at any later trap. -/
theorem pairwise_raised (unwritten : Unwritten os b) :
    (raised os b).Pairwise fun r s =>
      r.reply.state.hart.read .a1 = 0 → s.before.hart.read .a1 = 0 := by
  induction os generalizing b with
  | nil => exact .nil
  | cons o os ih =>
    obtain ⟨-, later⟩ := unwritten
    rw [raised]
    cases trap : o.trap? with
    | none => exact ih later
    | some t =>
      refine .cons (fun s member used => ?_) (ih later)
      have state : (o.perform b).state.hart.read .a1 = 0 := by
        rw [state_of_trap? trap]
        exact used
      exact read_a1_of_raised later state s member

/-- The traps of a session that move the program are its accepted calls for a page that exists, and at
most one of them does if nothing but the traps writes a general register. After a call for another page
that came back nothing moves any more, and every call that resumes does so just past itself. -/
theorem request_used_once (unwritten : Unwritten os b) :
    (∀ r ∈ raised os b, r.Relocates ↔ Architecture.AsksToMove r.before.hart r.trap ∧
      (r.before.hart.read .a2).toNat ≤ 3 ∧ ∃ o, r.reply.result = .ok o) ∧
      (raised os b).Pairwise (fun r s => ¬(r.Relocates ∧ s.Relocates)) ∧
      (raised os b).Pairwise fun r s => r.UsesRequest →
        ¬s.Relocates ∧
          (s.IsCall → ∀ pc mode, s.reply.result = .ok (.resumed pc mode) →
            pc = Architecture.next s.before s.trap) := by
  have still (s : Raised) (used : s.before.hart.read .a1 = 0) :
      ¬Architecture.AsksToMove s.before.hart s.trap :=
    fun asks => asks.2.2.2 used
  refine ⟨fun r _ => Raised.relocates_iff, ?once, ?place⟩
  case once =>
    refine (pairwise_raised unwritten).imp fun {r s} later moves => ?_
    exact still s (later moves.1.used) moves.2.asks
  case place =>
    refine (pairwise_raised unwritten).imp fun {r s} later uses => ?_
    have stays := still s (later uses.used)
    refine ⟨fun moves => stays moves.asks, fun call pc mode resumed => ?_⟩
    exact Bench.pc_of_call call.2 stays resumed

/-- A program in User mode that asks to go on in another page, with a handler at each level. -/
def courier : Bench :=
  let b := (Bench.start {}).withHandler .machine 0x80000100 .vectored
  ((b.withHandler .supervisor 0x80000300 .direct).delegate 0x100 0).setRequest
    { op := 4, page := 0x40000000, pageType := 1 }

/-- A fault, a call that Supervisor serves, an interrupt, and a call that Machine serves. -/
def errand : List Operation :=
  [.raise (.exception 2 .user 0x1000), .raise (.environmentCall .user 0x1004), .delegate 0 0,
    .raise (.interrupt 5 .user 0x40001008), .raise (.environmentCall .user 0x4000100C)]

/-- The first call moves the program and the second one finds nothing left of the request. -/
theorem request_used_once_errand :
    let r : Raised := ⟨session (errand.take 1) courier, .environmentCall .user 0x1004⟩
    let s : Raised := ⟨session (errand.take 4) courier, .environmentCall .user 0x4000100C⟩
    Unwritten errand courier ∧ [r, s].Sublist (raised errand courier) ∧
      r.Relocates ∧ r.reply.result = .ok (.resumed 0x40001008 .user) ∧
      ¬s.Relocates ∧ s.reply.result = .ok (.resumed 0x40001010 .user) ∧
      Architecture.next s.before s.trap = 0x40001010 := by
  intro r s
  have unwritten : Unwritten errand courier :=
    ⟨nofun, nofun, fun _ => rfl, nofun, nofun, trivial⟩
  have among : [r, s].Sublist (raised errand courier) :=
    .cons _ (.cons_cons _ (.cons _ (.cons_cons _ .slnil)))
  have first : r.reply.result = .ok (.resumed 0x40001008 .user) := by decide
  have second : s.reply.result = .ok (.resumed 0x40001010 .user) := by decide
  have uses : r.UsesRequest := ⟨by decide, _, _, first⟩
  have call : s.IsCall := ⟨by decide, by decide⟩
  obtain ⟨moving, once, place⟩ := request_used_once unwritten
  have relocates : r.Relocates :=
    (moving r (among.subset List.mem_cons_self)).mpr ⟨by decide, by decide, _, first⟩
  have still : ¬(r.Relocates ∧ s.Relocates) := List.pairwise_iff_forall_sublist.mp once among
  have there := (List.pairwise_iff_forall_sublist.mp place among uses).2 call _ _ second
  exact ⟨unwritten, among, relocates, first, fun again => still ⟨relocates, again⟩, second, there.symm⟩

end Operation

end HartTraps
