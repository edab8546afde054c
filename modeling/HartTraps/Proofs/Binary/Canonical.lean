import HartTraps.Bytes.Codec

/-!
# Canonical forms

A type has a canonical form if a reader that gives a value has taken exactly the form of this value off
its input; so no other bytes stand for it. `Reader.Consumes` relates what a reader takes to what it
gives. It is carried along a record field by field, from the bytes that were taken already to those that
are still to come.
-/

namespace HartTraps

/-- What the reader takes off its input is related to the value that it gives. -/
def Reader.Consumes {α : Type} (item : Reader α) (related : List UInt8 → α → Prop) : Prop :=
  ∀ input x rest, item.run input = .ok (x, rest) → ∃ front, input = front ++ rest ∧ related front x

namespace Reader

variable {α β : Type}

theorem run_bind_eq_ok {item : Reader α} {f : α → Reader β} {input rest : List UInt8} {y : β} :
    (item >>= f).run input = .ok (y, rest) ↔
      ∃ x mid, item.run input = .ok (x, mid) ∧ (f x).run mid = .ok (y, rest) := by
  rw [StateT.run_bind]
  cases answer : item.run input with
  | error e => simp [bind, Except.bind]
  | ok p =>
    constructor
    · intro read
      exact ⟨p.1, p.2, rfl, read⟩
    · rintro ⟨x, mid, same, read⟩
      cases same
      exact read

theorem Consumes.mono {item : Reader α} {weak strong : List UInt8 → α → Prop}
    (consumes : item.Consumes strong) (weaker : ∀ front x, strong front x → weak front x) :
    item.Consumes weak := by
  intro input x rest read
  obtain ⟨front, split, related⟩ := consumes input x rest read
  exact ⟨front, split, weaker front x related⟩

/-- What a record takes is what its first field takes and then what the other fields take. -/
theorem Consumes.bind {item : Reader α} {f : α → Reader β} {first : List UInt8 → α → Prop}
    {related : List UInt8 → β → Prop} (item_consumes : item.Consumes first)
    (others : ∀ front x, first front x → (f x).Consumes fun more y => related (front ++ more) y) :
    (item >>= f).Consumes related := by
  intro input y rest read
  obtain ⟨x, mid, readFirst, readOthers⟩ := run_bind_eq_ok.mp read
  obtain ⟨front, split, given⟩ := item_consumes input x mid readFirst
  obtain ⟨more, tail, whole⟩ := others front x given mid y rest readOthers
  refine ⟨front ++ more, ?_, whole⟩
  rw [split, tail, List.append_assoc]

theorem Consumes.pure {x : α} {related : List UInt8 → α → Prop} (given : related [] x) :
    (pure x : Reader α).Consumes related := by
  intro input y rest read
  cases read
  exact ⟨[], rfl, given⟩

theorem Consumes.throw (e : DecodeError) {related : List UInt8 → α → Prop} :
    (throw e : Reader α).Consumes related := by
  intro input y rest read
  cases read

theorem Consumes.map {item : Reader α} {g : α → β} {first : List UInt8 → α → Prop}
    {related : List UInt8 → β → Prop} (item_consumes : item.Consumes first)
    (given : ∀ front x, first front x → related front (g x)) : (g <$> item).Consumes related := by
  rw [map_eq_pure_bind]
  refine item_consumes.bind fun front x h => .pure ?_
  rw [List.append_nil]
  exact given front x h

theorem consumes_bytes (n : Nat) :
    (bytes n).Consumes fun front taken => front = taken ∧ taken.length = n := by
  intro input taken rest read
  change (if (input.take n).length = n then Except.ok (input.take n, input.drop n)
    else Except.error (DecodeError.endOfInput n)) = _ at read
  split at read
  · next long =>
    cases read
    exact ⟨input.take n, (List.take_append_drop n input).symm, rfl, long⟩
  · cases read

end Reader

namespace Reader

variable {α : Type}

theorem consumes_number (k : Nat) :
    (number k).Consumes fun front n => front = Endian.bytes k n ∧ n < Endian.span k := by
  refine (consumes_bytes k).map fun front _ ⟨same, length⟩ => ?_
  subst same length
  exact ⟨(Endian.bytes_number front).symm, Endian.number_lt_span front⟩

/-- A run of canonical items takes their forms one after the other. -/
theorem consumes_times {item : Reader α} {form : α → List UInt8}
    (each : item.Consumes fun front x => front = form x) (n : Nat) :
    (times item n).Consumes fun front xs => front = xs.flatMap form ∧ xs.length = n := by
  induction n with
  | zero => exact .pure ⟨rfl, rfl⟩
  | succ n ih =>
    refine each.bind fun front x first => ih.bind fun more xs ⟨others, length⟩ => .pure ⟨?_, ?_⟩
    · rw [first, others, List.append_nil, List.flatMap_cons]
    · rw [List.length_cons, length]

end Reader

/-- A type whose values are given only for their own forms. -/
class CanonicalBinary (α : Type) [Binary α] : Prop where
  consumes : (Binary.read : Reader α).Consumes fun front x => front = Binary.write x

namespace Binary

open Reader CanonicalBinary

variable {α β : Type}

/-- A canonical field is read and then the other fields. -/
theorem consumes_field [Binary α] [CanonicalBinary α] {f : α → Reader β} {related : List UInt8 → β → Prop}
    (others : ∀ x, (f x).Consumes fun more y => related (write x ++ more) y) :
    ((read : Reader α) >>= f).Consumes related :=
  consumes.bind fun _ x form => form ▸ others x

theorem consumes_bitVec {n k : Nat} (wide : ∀ m < Endian.span k, (BitVec.ofNat n m).toNat = m) :
    (BitVec.ofNat n <$> Reader.number k).Consumes fun front w => front = Endian.bytes k w.toNat := by
  refine (consumes_number k).map fun _ m ⟨form, bound⟩ => ?_
  rw [form, wide m bound]

instance : CanonicalBinary Word := ⟨consumes_bitVec fun _ bound => Nat.mod_eq_of_lt bound⟩

instance : CanonicalBinary (BitVec 32) := ⟨consumes_bitVec fun _ bound => Nat.mod_eq_of_lt bound⟩

instance : CanonicalBinary (BitVec 16) := ⟨consumes_bitVec fun _ bound => Nat.mod_eq_of_lt bound⟩

/-- An alternative takes its number and then what its payload takes. -/
theorem consumes_alternative {alternatives : List (Reader α)} {related : List UInt8 → α → Prop}
    (each : ∀ (i : Nat) (item : Reader α), alternatives[i]? = some item →
      item.Consumes fun more x => related (writeAlternative i ++ more) x) :
    (readAlternative alternatives).Consumes related := by
  refine (consumes_number 4).bind fun _ i ⟨form, _⟩ => ?_
  subst form
  cases declared : alternatives[i]? with
  | none => exact .throw _
  | some item => exact each i item declared

instance : CanonicalBinary Bool where
  consumes := by
    refine (consumes_number 1).bind fun _ n ⟨form, _⟩ => ?_
    subst form
    match n with
    | 0 => exact .pure rfl
    | 1 => exact .pure rfl
    | n + 2 => exact .throw _

instance [Binary α] [CanonicalBinary α] : CanonicalBinary (Option α) where
  consumes := by
    show (Reader.optional read).Consumes _
    unfold Reader.optional
    refine (consumes_number 1).bind fun _ n ⟨form, _⟩ => ?_
    subst form
    match n with
    | 0 => exact .pure rfl
    | 1 => exact consumes_field fun x => .pure (by rw [List.append_nil]; rfl)
    | n + 2 => exact .throw _

instance [Binary α] [Binary β] [CanonicalBinary α] [CanonicalBinary β] :
    CanonicalBinary (α × β) where
  consumes := consumes_field fun _ => consumes_field fun _ => .pure (by rw [List.append_nil]; rfl)

instance [Binary α] [CanonicalBinary α] : CanonicalBinary (List α) where
  consumes := by
    refine (consumes_number 8).bind fun _ n ⟨form, _⟩ => ?_
    refine (consumes_times consumes n).mono fun more xs ⟨items, length⟩ => ?_
    subst length
    rw [form, items]
    rfl

theorem toUTF8_of_fromUTF8? {bytes : ByteArray} {s : String}
    (decoded : String.fromUTF8? bytes = some s) : s.toUTF8 = bytes := by
  unfold String.fromUTF8? at decoded
  split at decoded
  · cases decoded
    rfl
  · cases decoded

instance : CanonicalBinary String where
  consumes := by
    refine (consumes_number 8).bind fun _ n ⟨form, _⟩ => (consumes_bytes n).bind fun front taken => ?_
    rintro ⟨same, length⟩
    subst form same length
    cases decoded : String.fromUTF8? ⟨front.toArray⟩ with
    | none => exact .throw _
    | some s =>
      have bytes := toUTF8_of_fromUTF8? decoded
      refine .pure ?_
      show _ = Endian.bytes 8 s.toUTF8.size ++ s.toUTF8.data.toList
      rw [bytes, List.append_nil]
      rfl

instance : CanonicalBinary ByteOrder where
  consumes := consumes_alternative fun i item declared => by
    match i, declared with
    | 0, rfl => exact .pure rfl
    | 1, rfl => exact .pure rfl

end Binary

end HartTraps
