import HartTraps.Bytes.Codec

/-!
# Reading back what was written

A reader takes a value off its written form and leaves what follows. Such readers compose along the
form: `Reader.Takes.bind` is the step for one field of a record. A lawful type reads back each of its
values; texts and lists do so when their length fits into its 64 bits.
-/

namespace HartTraps

/-- The reader takes `x` off the front of its form, whatever follows. -/
def Reader.Takes {α : Type} (item : Reader α) (form : List UInt8) (x : α) : Prop :=
  ∀ rest, item.run (form ++ rest) = .ok (x, rest)

namespace Reader

variable {α β : Type}

theorem Takes.bind {item : Reader α} {f : α → Reader β} {form more : List UInt8} {x : α} {y : β}
    (first : item.Takes form x) (second : (f x).Takes more y) :
    (item >>= f).Takes (form ++ more) y := by
  intro rest
  rw [List.append_assoc, StateT.run_bind, first (more ++ rest)]
  exact second rest

/-- The last field of a record completes it. -/
theorem Takes.last {item : Reader α} {g : α → β} {form : List UInt8} {x : α}
    (item_takes : item.Takes form x) : (item >>= fun x => pure (g x)).Takes form (g x) := by
  intro rest
  rw [StateT.run_bind, item_takes rest]
  rfl

theorem Takes.map {item : Reader α} {g : α → β} {form : List UInt8} {x : α}
    (item_takes : item.Takes form x) : (g <$> item).Takes form (g x) := by
  intro rest
  rw [StateT.run_map, item_takes rest]
  rfl

theorem takes_pure (x : α) : (pure x : Reader α).Takes [] x := fun _ => rfl

theorem takes_bytes {n : Nat} {front : List UInt8} (length : front.length = n) :
    (bytes n).Takes front front := by
  intro rest
  subst length
  show (if ((front ++ rest).take front.length).length = front.length then _ else _) = _
  rw [List.take_left, List.drop_left, if_pos rfl]

theorem takes_number {k n : Nat} (h : n < Endian.span k) :
    (number k).Takes (Endian.bytes k n) n := by
  have back : Endian.number (Endian.bytes k n) = n := by
    rw [Endian.number_bytes, Nat.mod_eq_of_lt h]
  have taken := (takes_bytes (Endian.length_bytes k n)).map (g := Endian.number)
  rw [back] at taken
  exact taken

/-- A run of values is read back item by item. -/
theorem takes_times {item : Reader α} {form : α → List UInt8} {xs : List α}
    (each : ∀ x ∈ xs, item.Takes (form x) x) :
    (times item xs.length).Takes (xs.flatMap form) xs := by
  induction xs with
  | nil => exact takes_pure []
  | cons x xs ih =>
    have rest := ih fun y hy => each y (List.mem_cons_of_mem x hy)
    rw [List.flatMap_cons]
    exact (each x List.mem_cons_self).bind rest.last

end Reader

namespace Binary

open Reader

/-- Numbers up to the width of `k` bytes are read back. -/
theorem takes_bitVec {n k : Nat} (w : BitVec n) (narrow : w.toNat < Endian.span k) :
    (BitVec.ofNat n <$> Reader.number k).Takes (Endian.bytes k w.toNat) w := by
  have taken := (takes_number narrow).map (g := BitVec.ofNat n)
  rw [BitVec.ofNat_toNat, BitVec.setWidth_eq] at taken
  exact taken

/-- An alternative with a payload is read back. -/
theorem takes_alternative {α : Type} {alternatives : List (Reader α)} {i : Nat} {item : Reader α}
    {form : List UInt8} {x : α} (declared : alternatives[i]? = some item)
    (payload : item.Takes form x) (small : i < Endian.span 4) :
    (readAlternative alternatives).Takes (writeAlternative i ++ form) x := by
  refine (takes_number small).bind ?_
  rw [declared]
  exact payload

/-- An alternative without a payload is read back. -/
theorem takes_constant {α : Type} {alternatives : List (Reader α)} {i : Nat} {x : α}
    (declared : alternatives[i]? = some (pure x)) (small : i < Endian.span 4) :
    (readAlternative alternatives).Takes (writeAlternative i) x := by
  have taken := takes_alternative declared (takes_pure x) small
  rw [List.append_nil] at taken
  exact taken

end Binary

/-- A type whose values are all read back from their form. -/
class LawfulBinary (α : Type) [Binary α] : Prop where
  takes (x : α) : (Binary.read : Reader α).Takes (Binary.write x) x

namespace Binary

open Reader LawfulBinary

variable {α β : Type} [Binary α] [Binary β]

instance : LawfulBinary Word := ⟨fun w => takes_bitVec w w.isLt⟩

instance : LawfulBinary (BitVec 32) := ⟨fun w => takes_bitVec w w.isLt⟩

instance : LawfulBinary (BitVec 16) := ⟨fun w => takes_bitVec w w.isLt⟩

instance : LawfulBinary Bool where
  takes b := by
    have digit : b.toNat < Endian.span 1 := by cases b <;> decide
    have taken (rest) := takes_number digit rest
    intro rest
    show (Reader.number 1 >>= _).run _ = _
    rw [StateT.run_bind]
    refine (congrArg (· >>= _) (taken rest)).trans ?_
    cases b <;> rfl

instance [LawfulBinary α] : LawfulBinary (Option α) where
  takes
    | none => by
      intro rest
      rfl
    | some x => by
      have present : (Reader.number 1).Takes (Endian.bytes 1 1) 1 := takes_number (by decide)
      show (Reader.optional read).Takes (Endian.bytes 1 1 ++ write x) (some x)
      unfold Reader.optional
      exact present.bind (takes x).last

instance [LawfulBinary α] [LawfulBinary β] : LawfulBinary (α × β) where
  takes p := (takes p.1).bind (takes p.2).last

/-- A list is read back if its length can be stored. -/
theorem takes_list [LawfulBinary α] {xs : List α} (short : xs.length < Endian.span 8) :
    (read : Reader (List α)).Takes (write xs) xs :=
  (takes_number (k := 8) short).bind (takes_times fun x _ => takes x)

theorem fromUTF8?_toUTF8 (s : String) : String.fromUTF8? s.toUTF8 = some s := by
  have valid : s.toUTF8.IsValidUTF8 := s.isValidUTF8
  unfold String.fromUTF8?
  rw [dif_pos valid]
  rfl

/-- A text is read back if its length can be stored. -/
theorem takes_string {s : String} (short : s.utf8ByteSize < Endian.span 8) :
    (read : Reader String).Takes (write s) s := by
  refine (takes_number (k := 8) short).bind ?_
  have decoded : String.fromUTF8? ⟨s.toUTF8.data.toList.toArray⟩ = some s :=
    fromUTF8?_toUTF8 s
  have front : (Reader.bytes s.utf8ByteSize).Takes s.toUTF8.data.toList s.toUTF8.data.toList :=
    takes_bytes Array.length_toList
  intro rest
  rw [StateT.run_bind, front rest]
  dsimp only [bind, Except.bind]
  rw [decoded]
  rfl

instance : LawfulBinary ByteOrder where
  takes
    | .little => takes_constant rfl (by decide)
    | .big => takes_constant rfl (by decide)

end Binary

end HartTraps
