import HartTraps.Session.History

/-!
# Sessions on like benches

Two benches may differ where no operation looks. A likeness is a relation between benches that every
single change respects. `Likeness.session` says that a session on like benches gives the same answers
and has the same history on both, and leaves them alike. A likeness may set errors apart: it says
nothing about what follows once the first of the two benches has answered with one of them.
-/

namespace HartTraps

namespace Reply

variable {σ α β : Type}

/-- The reply is not one of these errors. -/
def Avoids (errors : BenchError → Prop) (r : Reply σ α) : Prop :=
  ∀ e, r.result = .error e → ¬errors e

/-- If the first reply avoids the errors then both have the same result and their states are related. -/
def Agrees (related : σ → σ → Prop) (errors : BenchError → Prop) (r s : Reply σ α) : Prop :=
  r.Avoids errors → r.result = s.result ∧ related r.state s.state

theorem avoids_map_iff {errors : BenchError → Prop} {x : Run σ α} {f : α → β} {s : σ} :
    ((f <$> x) s).Avoids errors ↔ (x s).Avoids errors := by
  constructor
  · intro avoids e refused
    exact avoids e (Run.result_map_eq_error.mpr refused)
  · intro avoids e refused
    exact avoids e (Run.result_map_eq_error.mp refused)

theorem Agrees.map {related : σ → σ → Prop} {errors : BenchError → Prop} {x y : Run σ α} {s t : σ}
    (agrees : (x s).Agrees related errors (y t)) (f : α → β) :
    ((f <$> x) s).Agrees related errors ((f <$> y) t) := by
  intro avoids
  obtain ⟨result, state⟩ := agrees (avoids_map_iff.mp avoids)
  rw [Run.map_apply, Run.map_apply, result]
  exact ⟨rfl, state⟩

end Reply

/-- An operation on the bench itself: not a script, not a case of a test table, not a reload. -/
def Operation.IsDirect : Operation → Prop
  | runCase _ _ | play _ | reload | restore => False
  | _ => True

namespace Bench

/-- A run whose end avoids the errors ends with a call that avoids them. -/
theorem avoids_closing {errors : BenchError → Prop} {b : Bench}
    (avoids : (terminate b).Avoids errors) : (call closingRequest b).Avoids errors := by
  intro e refused
  rw [terminate_of_error refused] at avoids
  exact avoids e rfl

/-- Runs end alike if their calls for Machine mode are answered alike. -/
theorem terminate_alike {like : Bench → Bench → Prop} {b c : Bench}
    (state : like (call closingRequest b).state (call closingRequest c).state)
    (result : (call closingRequest b).result = (call closingRequest c).result)
    (close : ∀ b c, like b c → like b.close c.close) :
    (terminate b).result = (terminate c).result ∧ like (terminate b).state (terminate c).state := by
  cases answer : (call closingRequest b).result with
  | error e =>
    rw [terminate_of_error answer, terminate_of_error (result.symm.trans answer)]
    exact ⟨rfl, state⟩
  | ok outcome =>
    cases outcome with
    | resumed pc mode =>
      rw [terminate_of_resumed answer, terminate_of_resumed (result.symm.trans answer)]
      exact ⟨rfl, close _ _ state⟩
    | halted v =>
      rw [terminate_of_halted answer, terminate_of_halted (result.symm.trans answer)]
      exact ⟨rfl, state⟩

/-- A relation between benches that every change of a bench respects. -/
structure Likeness (like : Bench → Bench → Prop) (errors : BenchError → Prop) : Prop where
  hart_eq {b c : Bench} (alike : like b c) : c.hart = b.hart
  setHart {b c : Bench} (alike : like b c) (hart : Hart) : like { b with hart } { c with hart }
  install {b c : Bench} (alike : like b c) (level : TrapLevel) (base : Word) (vectoring : Vectoring) :
    like (b.withHandler level base vectoring) (c.withHandler level base vectoring)
  close {b c : Bench} (alike : like b c) : like b.close c.close
  rebase {b c : Bench} (alike : like b c) (cursor : Word) : like (b.rebase cursor) (c.rebase cursor)
  append {b c : Bench} (alike : like b c) (w : Word) :
    (append w b).Agrees like errors (append w c)
  raise {b c : Bench} (alike : like b c) (t : Trap) :
    (raise t b).Agrees like errors (raise t c)

namespace Likeness

variable {like : Bench → Bench → Prop} {errors : BenchError → Prop} (likeness : Likeness like errors)
  {b c : Bench}

include likeness

/-- A change of the hart that depends on the hart alone. -/
theorem mapHart (alike : like b c) (f : Hart → Hart) :
    like { b with hart := f b.hart } { c with hart := f c.hart } := by
  rw [likeness.hart_eq alike]
  exact likeness.setHart alike (f b.hart)

theorem setRequest (alike : like b c) (r : CallRequest) : like (b.setRequest r) (c.setRequest r) :=
  likeness.mapHart alike fun hart => ((hart.write .a0 r.op).write .a1 r.page).write .a2 r.pageType

theorem call (alike : like b c) (r : CallRequest) :
    (call r b).Agrees like errors (call r c) := by
  rw [call_apply, call_apply, likeness.hart_eq alike]
  exact likeness.raise (likeness.setRequest alike r) _

theorem terminate (alike : like b c) : (terminate b).Agrees like errors (terminate c) := by
  intro avoids
  obtain ⟨result, state⟩ := likeness.call alike closingRequest (avoids_closing avoids)
  exact terminate_alike state result fun _ _ => likeness.close

/-- A direct operation answers alike on like benches and leaves them alike. -/
theorem perform {o : Operation} (direct : o.IsDirect) (alike : like b c) :
    (o.perform b).Agrees like errors (o.perform c) := by
  cases o with
  | install mode base vectoring =>
    intro _
    cases mode with
    | user => exact ⟨rfl, alike⟩
    | supervisor => exact ⟨rfl, likeness.install alike .supervisor base vectoring⟩
    | machine => exact ⟨rfl, likeness.install alike .machine base vectoring⟩
  | delegate exceptions interrupts =>
    intro _
    exact ⟨rfl, likeness.mapHart alike fun hart =>
      (hart.writeCsr .medeleg exceptions).writeCsr .mideleg interrupts⟩
  | setMode mode =>
    intro _
    exact ⟨rfl, likeness.mapHart alike fun hart => { hart with mode }⟩
  | setPc pc =>
    intro _
    exact ⟨rfl, likeness.mapHart alike fun hart => { hart with pc }⟩
  | setRegister r w =>
    intro _
    exact ⟨rfl, likeness.mapHart alike fun hart => hart.write r w⟩
  | setCsr a w =>
    intro _
    exact ⟨rfl, likeness.mapHart alike fun hart => hart.writeCsr a w⟩
  | setHart hart =>
    intro _
    exact ⟨rfl, likeness.setHart alike hart⟩
  | raise t => exact (likeness.raise alike t).map _
  | call r => exact (likeness.call alike r).map _
  | terminate => exact (likeness.terminate alike).map _
  | append w => exact (likeness.append alike w).map _
  | rebase cursor =>
    intro _
    exact ⟨rfl, likeness.rebase alike cursor⟩
  | _ => cases direct

/-! ## Histories -/

theorem trapEvents (alike : like b c) {t : Trap} (avoids : (Bench.raise t b).Avoids errors) :
    trapEvents t b = trapEvents t c := by
  unfold Bench.trapEvents
  rw [(likeness.raise alike t avoids).1, likeness.hart_eq alike]

theorem callEvents (alike : like b c) {r : CallRequest} (avoids : (Bench.call r b).Avoids errors) :
    callEvents r b = callEvents r c := by
  unfold Bench.callEvents
  rw [likeness.hart_eq alike]
  exact likeness.trapEvents (likeness.setRequest alike r) avoids

/-- A direct operation has the same events on like benches. -/
theorem ownEvents {o : Operation} (direct : o.IsDirect) (alike : like b c)
    (avoids : (o.perform b).Avoids errors) : o.ownEvents b = o.ownEvents c := by
  cases o with
  | raise t => exact likeness.trapEvents alike (Reply.avoids_map_iff.mp avoids)
  | call r => exact likeness.callEvents alike (Reply.avoids_map_iff.mp avoids)
  | terminate =>
    exact likeness.callEvents alike (avoids_closing (Reply.avoids_map_iff.mp avoids))
  | append w =>
    have result := (likeness.append alike w (Reply.avoids_map_iff.mp avoids)).1
    show appendEvents w b = appendEvents w c
    unfold appendEvents
    rw [result]
  | runCase case routine => cases direct
  | _ => rfl

end Likeness

end Bench

namespace Operation

/-- The history of direct operations is that of the operations themselves. -/
theorem history_cons_of_direct {o : Operation} (direct : o.IsDirect) (os : List Operation) (b : Bench) :
    history (o :: os) b = o.ownEvents b ++ history os (o.perform b).state := by
  have events : o.events b = o.ownEvents b := by
    cases o with
    | play script => cases direct
    | _ => exact List.append_nil _
  rw [history, events]

end Operation

namespace Bench.Likeness

variable {like : Bench → Bench → Prop} {errors : BenchError → Prop}

/-- Sessions of direct operations on like benches give the same answers, have the same history and
leave the benches alike, as long as the first avoids the errors. -/
theorem session (likeness : Likeness like errors) {os : List Operation}
    (direct : ∀ o ∈ os, o.IsDirect) {b c : Bench} (alike : like b c)
    (avoids : ∀ reply ∈ Operation.replies os b, reply.Avoids errors) :
    (Operation.replies os b).map (·.result) = (Operation.replies os c).map (·.result) ∧
      Operation.history os b = Operation.history os c ∧
      like (Operation.session os b) (Operation.session os c) := by
  induction os generalizing b c with
  | nil => exact ⟨rfl, rfl, alike⟩
  | cons o os ih =>
    have own : o.IsDirect := direct o List.mem_cons_self
    have first : (o.perform b).Avoids errors := avoids _ List.mem_cons_self
    obtain ⟨result, state⟩ := likeness.perform own alike first
    obtain ⟨results, history, after⟩ :=
      ih (fun later member => direct later (List.mem_cons_of_mem _ member)) state
        (fun reply member => avoids reply (List.mem_cons_of_mem _ member))
    refine ⟨?results, ?history, after⟩
    case results =>
      show (o.perform b).result :: _ = (o.perform c).result :: _
      rw [result]
      exact congrArg _ results
    case history =>
      rw [Operation.history_cons_of_direct own, Operation.history_cons_of_direct own,
        likeness.ownEvents own alike first, history]

end Bench.Likeness

end HartTraps
