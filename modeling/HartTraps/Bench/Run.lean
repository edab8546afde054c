import HartTraps.Bench.Error
import HartTraps.Bench.Note

/-!
# Runs

A run acts on a state. It ends with a value or an error, leaves a state and takes notes. An error
ends the run but keeps what was done before it; so a run is its own record of how far it came.
-/

namespace HartTraps

/-- What a run leaves behind. -/
structure Reply (σ α : Type) where
  result : Except BenchError α
  state : σ
  notes : List Note

/-- A run on states of type `σ` that ends with an `α`. -/
def Run (σ α : Type) : Type := σ → Reply σ α

namespace Run

variable {σ τ α β : Type}

/-- Ends at once with a value. -/
protected def pure (a : α) : Run σ α := fun s => ⟨.ok a, s, []⟩

/-- Goes on with the value of a first run, unless that ended with an error. -/
protected def bind (x : Run σ α) (f : α → Run σ β) : Run σ β := fun s =>
  let r := x s
  match r.result with
  | .error e => ⟨.error e, r.state, r.notes⟩
  | .ok a =>
    let t := f a r.state
    ⟨t.result, t.state, r.notes ++ t.notes⟩

/-- Changes the value with which a run ends. -/
protected def map (f : α → β) (x : Run σ α) : Run σ β := fun s =>
  let r := x s
  ⟨r.result.map f, r.state, r.notes⟩

instance : Monad (Run σ) where
  pure := Run.pure
  bind := Run.bind
  map := Run.map

/-- Ends at once with an error. -/
def fail (e : BenchError) : Run σ α := fun s => ⟨.error e, s, []⟩

/-- Ends with a value that may be an error. -/
def ofExcept (r : Except BenchError α) : Run σ α := fun s => ⟨r, s, []⟩

/-- The current state. -/
def get : Run σ σ := fun s => ⟨.ok s, s, []⟩

/-- Changes the state. -/
def modify (f : σ → σ) : Run σ Unit := fun s => ⟨.ok (), f s, []⟩

/-- Replaces the state, or fails and keeps it. -/
def become (r : Except BenchError σ) : Run σ Unit := fun s =>
  match r with
  | .ok t => ⟨.ok (), t, []⟩
  | .error e => ⟨.error e, s, []⟩

/-- Takes a note. -/
def note (n : Note) : Run σ Unit := fun s => ⟨.ok (), s, [n]⟩

/-- Acts on the first part of a state. -/
def onFirst (x : Run σ α) : Run (σ × τ) α := fun s =>
  let r := x s.1
  ⟨r.result, (r.state, s.2), r.notes⟩

/-- Carries out runs one after the other, each in the state that the one before left; an error ends
its own run only. -/
def each : List (Run σ α) → σ → List (Reply σ α)
  | [], _ => []
  | x :: rest, s =>
    let r := x s
    r :: each rest r.state

@[simp] theorem pure_apply (a : α) (s : σ) : (pure a : Run σ α) s = ⟨.ok a, s, []⟩ := rfl

@[simp] theorem fail_apply (e : BenchError) (s : σ) : (fail e : Run σ α) s = ⟨.error e, s, []⟩ := rfl

theorem bind_apply (x : Run σ α) (f : α → Run σ β) (s : σ) :
    (x >>= f) s =
      match (x s).result with
      | .error e => ⟨.error e, (x s).state, (x s).notes⟩
      | .ok a => ⟨(f a (x s).state).result, (f a (x s).state).state,
          (x s).notes ++ (f a (x s).state).notes⟩ := rfl

theorem bind_apply_of_ok {x : Run σ α} {f : α → Run σ β} {s : σ} {a : α}
    (h : (x s).result = .ok a) :
    (x >>= f) s = ⟨(f a (x s).state).result, (f a (x s).state).state,
      (x s).notes ++ (f a (x s).state).notes⟩ := by
  rw [bind_apply, h]

theorem bind_apply_of_error {x : Run σ α} {f : α → Run σ β} {s : σ} {e : BenchError}
    (h : (x s).result = .error e) : (x >>= f) s = ⟨.error e, (x s).state, (x s).notes⟩ := by
  rw [bind_apply, h]

theorem map_apply (f : α → β) (x : Run σ α) (s : σ) :
    (f <$> x) s = ⟨(x s).result.map f, (x s).state, (x s).notes⟩ := rfl

theorem map_eq_error {f : α → β} {r : Except BenchError α} {e : BenchError} :
    r.map f = .error e ↔ r = .error e := by
  cases r <;> simp [Except.map]

theorem map_eq_ok {f : α → β} {r : Except BenchError α} {y : β} :
    r.map f = .ok y ↔ ∃ a, r = .ok a ∧ f a = y := by
  cases r <;> simp [Except.map]

theorem result_map_eq_error {f : α → β} {x : Run σ α} {s : σ} {e : BenchError} :
    ((f <$> x) s).result = .error e ↔ (x s).result = .error e :=
  map_eq_error

theorem result_bind_eq_error {x : Run σ α} {f : α → Run σ β} {s : σ} {e : BenchError} :
    ((x >>= f) s).result = .error e ↔
      (x s).result = .error e ∨
        ∃ a, (x s).result = .ok a ∧ (f a (x s).state).result = .error e := by
  rw [bind_apply]
  cases (x s).result <;> simp

instance : LawfulMonad (Run σ) := LawfulMonad.mk' _
  (fun x => by
    funext s
    rw [map_apply]
    rcases x s with ⟨_ | _, _, _⟩ <;> rfl)
  (fun _ _ => rfl)
  (fun x f g => by
    funext s
    simp only [bind_apply]
    rcases x s with ⟨_ | a, t, _⟩
    · rfl
    · dsimp only
      rcases f a t with ⟨_ | _, _, _⟩ <;> simp)
  (fun _ _ => rfl) (fun _ _ => rfl) (fun _ _ => rfl)
  (fun f x => by
    funext s
    rw [map_apply, bind_apply]
    rcases x s with ⟨_ | _, _, _⟩ <;> simp [Except.map])

end Run

end HartTraps
