import HartTraps.Bytes.Codec

/-!
# Truncated input

A reader looks at its input from the front only. So more input at the end changes neither what it gives
nor why it refuses, except that it may go on where it missed bytes; and what is cut off from the form of
a value is missed. `Reader.Streams` says this of a reader, and `Reader.Streams.truncated` draws the
conclusion for the strict prefixes of a form.
-/

namespace HartTraps

/-- More input at the end changes nothing for the reader, except that it may go on where it missed
bytes. If it can go on then the bytes that it missed are no more than all of the input. -/
structure Reader.Streams {α : Type} (item : Reader α) : Prop where
  shrinks : ∀ {input x rest}, item.run input = .ok (x, rest) → rest.length ≤ input.length
  gives : ∀ {input x rest}, item.run input = .ok (x, rest) →
    ∀ tail, item.run (input ++ tail) = .ok (x, rest ++ tail)
  refuses : ∀ {input e}, item.run input = .error e → (∀ wanted, e ≠ .endOfInput wanted) →
    ∀ tail, item.run (input ++ tail) = .error e
  misses : ∀ {input wanted}, item.run input = .error (.endOfInput wanted) →
    ∀ {tail x rest}, item.run (input ++ tail) = .ok (x, rest) → wanted ≤ (input ++ tail).length

namespace Reader

variable {α β : Type}

/-- A strict prefix of a form misses bytes, and no more than the form has. -/
theorem Streams.truncated {item : Reader α} (streams : item.Streams) {front back : List UInt8} {x : α}
    (whole : item.run (front ++ back) = .ok (x, [])) (strict : back ≠ []) :
    ∃ wanted, wanted ≤ (front ++ back).length ∧ item.run front = .error (.endOfInput wanted) := by
  cases answer : item.run front with
  | ok p =>
    -- The reader would leave `back` over, but it takes the whole form.
    have longer := streams.gives answer back
    rw [whole] at longer
    cases p
    have left : [] = _ ++ back := congrArg Prod.snd (Except.ok.inj longer)
    exact absurd (List.append_eq_nil_iff.mp left.symm).2 strict
  | error e =>
    cases e with
    | endOfInput wanted => exact ⟨wanted, streams.misses answer whole, rfl⟩
    | _ =>
      have refused := streams.refuses answer (by intro wanted same; cases same) back
      rw [whole] at refused
      cases refused

theorem Streams.pure (x : α) : (pure x : Reader α).Streams where
  shrinks read := by cases read; exact Nat.le_refl _
  gives read tail := by cases read; rfl
  refuses read := by cases read
  misses read := by cases read

theorem Streams.throw (e : DecodeError) (other : ∀ wanted, e ≠ .endOfInput wanted) :
    (throw e : Reader α).Streams where
  shrinks read := by cases read
  gives read := by cases read
  refuses read _ tail := by cases read; rfl
  misses read := by cases read; exact absurd rfl (other _)

/-- A record streams if its fields do. -/
theorem Streams.bind {item : Reader α} {f : α → Reader β} (first : item.Streams)
    (others : ∀ x, (f x).Streams) : (item >>= f).Streams := by
  have run_of_ok {input x mid} (read : item.run input = .ok (x, mid)) :
      (item >>= f).run input = (f x).run mid := by rw [StateT.run_bind, read]; rfl
  have run_of_error {input e} (read : item.run input = .error e) :
      (item >>= f).run input = .error e := by rw [StateT.run_bind, read]; rfl
  constructor
  case shrinks =>
    intro input y rest read
    cases answer : item.run input with
    | error e => rw [run_of_error answer] at read; cases read
    | ok p =>
      rw [run_of_ok answer] at read
      exact Nat.le_trans ((others p.1).shrinks read) (first.shrinks answer)
  case gives =>
    intro input y rest read tail
    cases answer : item.run input with
    | error e => rw [run_of_error answer] at read; cases read
    | ok p =>
      rw [run_of_ok answer] at read
      rw [run_of_ok (first.gives answer tail)]
      exact (others p.1).gives read tail
  case refuses =>
    intro input e read other tail
    cases answer : item.run input with
    | error e' =>
      rw [run_of_error answer] at read
      cases read
      exact run_of_error (first.refuses answer other tail)
    | ok p =>
      rw [run_of_ok answer] at read
      rw [run_of_ok (first.gives answer tail)]
      exact (others p.1).refuses read other tail
  case misses =>
    intro input wanted read tail y rest whole
    cases answer : item.run input with
    | error e =>
      rw [run_of_error answer] at read
      cases read
      cases longer : item.run (input ++ tail) with
      | error e => rw [run_of_error longer] at whole; cases whole
      | ok p => exact first.misses answer longer
    | ok p =>
      rw [run_of_ok answer] at read
      rw [run_of_ok (first.gives answer tail)] at whole
      have bound := (others p.1).misses read whole
      have less := first.shrinks answer
      rw [List.length_append] at bound ⊢
      omega

theorem Streams.map {item : Reader α} (g : α → β) (streams : item.Streams) : (g <$> item).Streams := by
  rw [map_eq_pure_bind]
  exact streams.bind fun x => .pure (g x)

theorem streams_bytes (n : Nat) : (bytes n).Streams := by
  have run_bytes (input : List UInt8) : (bytes n).run input =
      if n ≤ input.length then .ok (input.take n, input.drop n) else .error (.endOfInput n) := by
    show (if (input.take n).length = n then _ else _) = _
    have long : min n input.length = n ↔ n ≤ input.length := by omega
    simp only [List.length_take, long]
  constructor
  case shrinks =>
    intro input taken rest read
    rw [run_bytes] at read
    split at read
    · cases read
      rw [List.length_drop]
      omega
    · cases read
  case gives =>
    intro input taken rest read tail
    rw [run_bytes] at read
    split at read
    · next long =>
      cases read
      rw [run_bytes, if_pos (by rw [List.length_append]; omega), List.take_append_of_le_length long,
        List.drop_append_of_le_length long]
    · cases read
  case refuses =>
    intro input e read other
    rw [run_bytes] at read
    split at read
    · cases read
    · cases read
      exact absurd rfl (other n)
  case misses =>
    intro input wanted read tail taken rest whole
    rw [run_bytes] at read whole
    split at read
    · cases read
    · cases read
      split at whole
      · assumption
      · cases whole

theorem streams_number (k : Nat) : (number k).Streams :=
  (streams_bytes k).map Endian.number

theorem streams_times {item : Reader α} (each : item.Streams) (n : Nat) : (times item n).Streams := by
  induction n with
  | zero => exact .pure []
  | succ n ih => exact each.bind fun x => ih.bind fun xs => .pure (x :: xs)

end Reader

/-- A type whose reader looks at its input from the front only. -/
class StreamedBinary (α : Type) [Binary α] : Prop where
  streams : (Binary.read : Reader α).Streams

namespace Binary

open Reader StreamedBinary

variable {α β : Type}

theorem streams_alternative {alternatives : List (Reader α)}
    (each : ∀ item ∈ alternatives, item.Streams) : (readAlternative alternatives).Streams := by
  refine (streams_number 4).bind fun i => ?_
  cases declared : alternatives[i]? with
  | none => exact .throw _ (by intro wanted same; cases same)
  | some item => exact each item (List.mem_of_getElem? declared)

instance : StreamedBinary Word := ⟨(streams_number 8).map _⟩

instance : StreamedBinary (BitVec 32) := ⟨(streams_number 4).map _⟩

instance : StreamedBinary (BitVec 16) := ⟨(streams_number 2).map _⟩

instance : StreamedBinary Bool where
  streams := by
    refine (streams_number 1).bind fun n => ?_
    match n with
    | 0 => exact .pure false
    | 1 => exact .pure true
    | n + 2 => exact .throw _ (by intro wanted same; cases same)

instance [Binary α] [StreamedBinary α] : StreamedBinary (Option α) where
  streams := by
    show (Reader.optional read).Streams
    unfold Reader.optional
    refine (streams_number 1).bind fun n => ?_
    match n with
    | 0 => exact .pure none
    | 1 => exact streams.bind fun x => .pure (some x)
    | n + 2 => exact .throw _ (by intro wanted same; cases same)

instance [Binary α] [Binary β] [StreamedBinary α] [StreamedBinary β] : StreamedBinary (α × β) where
  streams := streams.bind fun a => streams.bind fun b => .pure (a, b)

instance [Binary α] [StreamedBinary α] : StreamedBinary (List α) where
  streams := (streams_number 8).bind fun n => streams_times streams n

instance : StreamedBinary String where
  streams := by
    refine (streams_number 8).bind fun n => (streams_bytes n).bind fun front => ?_
    cases String.fromUTF8? ⟨front.toArray⟩ with
    | none => exact .throw _ (by intro wanted same; cases same)
    | some s => exact .pure s

instance : StreamedBinary ByteOrder where
  streams := streams_alternative fun item declared => by
    simp only [List.mem_cons, List.not_mem_nil, or_false] at declared
    rcases declared with rfl | rfl <;> exact .pure _

end Binary

end HartTraps
