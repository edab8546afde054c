import Mathlib.Data.List.Forall2
import HartTraps.Log
import HartTraps.Proofs.Text.Numeral

/-!
# Signatures

The signature of a log has a line for each of its words, and the line is the word in 16 lower-case hexadecimal
digits. So the words can be read back from the signature, all digits together are the bytes of the log, highest
first, and nothing but the words shows in it (`Log.signature_exact`).
-/

namespace HartTraps

namespace Hex

/-- The digits that are written. -/
def lowerDigits : List Char :=
  ['0', '1', '2', '3', '4', '5', '6', '7', '8', '9', 'a', 'b', 'c', 'd', 'e', 'f']

/-- A line that is 16 lower-case digits with the value of a word. -/
structure SpellsWord (line : List Char) (w : Word) : Prop where
  length : line.length = 16
  lower : ∀ c ∈ line, c ∈ lowerDigits
  value : Numeral.Digits 16 line w.toNat

/-- The digits of a word, the high half of its highest byte first. -/
def wordDigits (w : Word) : List Char :=
  (ByteOrder.big.bytes w).flatMap byteDigits

theorem digitChar_mem_lowerDigits : ∀ d < 16, Nat.digitChar d ∈ lowerDigits := by decide

theorem high_lt (b : UInt8) : b.toNat / 16 < 16 := by
  have bound := b.toNat_lt
  omega

theorem low_lt (b : UInt8) : b.toNat % 16 < 16 :=
  Nat.mod_lt _ (by decide)

theorem mem_byteDigits {b : UInt8} {c : Char} (digit : c ∈ byteDigits b) : c ∈ lowerDigits := by
  simp only [byteDigits, List.mem_cons, List.not_mem_nil, or_false] at digit
  rcases digit with rfl | rfl
  · exact digitChar_mem_lowerDigits _ (high_lt b)
  · exact digitChar_mem_lowerDigits _ (low_lt b)

/-- Two more digits make room for one more byte. -/
theorem digits_append_byteDigits {cs : List Char} {n : Nat} (digits : Numeral.Digits 16 cs n)
    (b : UInt8) : Numeral.Digits 16 (cs ++ byteDigits b) (256 * n + b.toNat) := by
  have split : cs ++ byteDigits b =
      (cs ++ [Nat.digitChar (b.toNat / 16)]) ++ [Nat.digitChar (b.toNat % 16)] := by
    rw [byteDigits, List.append_assoc, List.singleton_append]
  have value : 256 * n + b.toNat = 16 * (16 * n + b.toNat / 16) + b.toNat % 16 := by omega
  rw [split, value]
  exact (digits.next ⟨high_lt b, .inl rfl⟩).next ⟨low_lt b, .inl rfl⟩

/-- The digits of bytes, highest first, have the value of the bytes. -/
theorem digits_flatMap_byteDigits {bs : List UInt8} (some_byte : bs ≠ []) :
    Numeral.Digits 16 (bs.flatMap byteDigits) (Endian.number bs.reverse) := by
  induction bs using List.reverseRecOn with
  | nil => exact absurd rfl some_byte
  | append_singleton bs b ih =>
    have last : (bs ++ [b]).flatMap byteDigits = bs.flatMap byteDigits ++ byteDigits b := by
      rw [List.flatMap_append, List.flatMap_singleton]
    have value : Endian.number (bs ++ [b]).reverse = 256 * Endian.number bs.reverse + b.toNat := by
      rw [List.reverse_append, List.reverse_singleton, List.singleton_append, Endian.number,
        Nat.add_comm]
    rw [last, value]
    cases bs with
    | nil =>
      have split : byteDigits b =
          [Nat.digitChar (b.toNat / 16)] ++ [Nat.digitChar (b.toNat % 16)] := rfl
      have whole : 256 * Endian.number [] + b.toNat = 16 * (b.toNat / 16) + b.toNat % 16 := by
        rw [Endian.number]
        omega
      rw [List.reverse_nil, whole, List.flatMap_nil, List.nil_append, split]
      exact (Numeral.Digits.first ⟨high_lt b, .inl rfl⟩).next ⟨low_lt b, .inl rfl⟩
    | cons first rest => exact digits_append_byteDigits (ih (List.cons_ne_nil first rest)) b

/-- Bytes are read back from their digits. -/
theorem bytes?_flatMap_byteDigits (bs : List UInt8) : bytes? (bs.flatMap byteDigits) = some bs := by
  induction bs with
  | nil => rfl
  | cons b bs ih =>
    have digitValue {d : Nat} (low : d < 16) : digitValue? (Nat.digitChar d) = some d :=
      Numeral.IsDigit.value (Nat.le_refl 16) ⟨low, .inl rfl⟩
    have whole : 16 * (b.toNat / 16) + b.toNat % 16 = b.toNat := by omega
    rw [List.flatMap_cons, byteDigits, List.cons_append, List.singleton_append, bytes?,
      digitValue (high_lt b), digitValue (low_lt b), ih]
    show some (UInt8.ofNat (16 * (b.toNat / 16) + b.toNat % 16) :: bs) = some (b :: bs)
    rw [whole, UInt8.ofNat_toNat]

theorem spellsWord_wordDigits (w : Word) : SpellsWord (wordDigits w) w where
  length := by
    rw [wordDigits, length_byteDigits, ByteOrder.length_bytes]
  lower := by
    intro c member
    obtain ⟨b, -, digit⟩ := List.mem_flatMap.mp member
    exact mem_byteDigits digit
  value := by
    have some_byte : ByteOrder.big.bytes w ≠ [] :=
      List.ne_nil_of_length_pos (by rw [ByteOrder.length_bytes]; decide)
    have digits := digits_flatMap_byteDigits some_byte
    have number : Endian.number (ByteOrder.big.bytes w).reverse = w.toNat := by
      rw [ByteOrder.bytes, List.reverse_reverse, Endian.number_bytes]
      exact Nat.mod_eq_of_lt w.isLt
    rwa [number] at digits

/-- A line spells one word at most. -/
theorem SpellsWord.unique {line : List Char} {w v : Word} (spells : SpellsWord line w)
    (other : SpellsWord line v) : w = v := by
  have value := spells.value.value (Nat.le_refl 16)
  rw [other.value.value (Nat.le_refl 16)] at value
  exact (BitVec.eq_of_toNat_eq (Option.some.inj value)).symm

theorem SpellsWord.notMem {line : List Char} {w : Word} (spells : SpellsWord line w) {c : Char}
    (other : c ∉ lowerDigits) : c ∉ line :=
  fun member => other (spells.lower c member)

theorem wordDigits_injective {w v : Word} (same : wordDigits w = wordDigits v) : w = v :=
  (spellsWord_wordDigits w).unique (same ▸ spellsWord_wordDigits v)

end Hex

namespace Log

theorem toList_signature (log : Log) :
    log.signature.toList = log.words.flatMap fun w => Hex.wordDigits w ++ ['\n'] := by
  have line (w : Word) :
      (Hex.bytes (ByteOrder.big.bytes w) ++ "\n").toList = Hex.wordDigits w ++ ['\n'] := by
    rw [String.toList_append, Hex.bytes, String.toList_ofList]
    rfl
  rw [signature, String.toList_join, List.flatMap_map]
  exact congrArg (fun lines => log.words.flatMap lines) (funext line)

/-- The lines of a signature are the digits of the words. -/
theorem lines_signature (log : Log) :
    Text.lines log.signature.toList = log.words.map Hex.wordDigits := by
  rw [toList_signature]
  induction log.words with
  | nil => rfl
  | cons w ws ih =>
    have spells := Hex.spellsWord_wordDigits w
    have feed : '\n' ∉ Hex.wordDigits w := spells.notMem (by decide)
    have whole : Text.dropReturn (Hex.wordDigits w) = Hex.wordDigits w := by
      unfold Text.dropReturn
      split
      · next returned => exact absurd (List.mem_of_getLast? returned) (spells.notMem (by decide))
      · rfl
    rw [List.flatMap_cons, List.append_assoc, List.singleton_append, Text.lines_append feed, whole, ih,
      List.map_cons]

/-- The signature of a log consists of as many lines as there are words, each of which ends with a line feed
and spells its word in 16 lower-case digits. The digits of all lines are the bytes of the log, highest first. Two
logs have the same signature exactly if they have the same words, wherever their regions lie and however large
they are. -/
theorem signature_exact (log : Log) :
    let lines := Text.lines log.signature.toList
    log.signature.toList = lines.flatMap (· ++ ['\n']) ∧
      lines.length = log.words.length ∧
      List.Forall₂ Hex.SpellsWord lines log.words ∧
      Hex.bytes? lines.flatten = some (log.bytes .big) ∧
      ∀ other : Log, other.signature = log.signature ↔ other.words = log.words := by
  intro lines
  have digits : lines = log.words.map Hex.wordDigits := log.lines_signature
  refine ⟨?feeds, ?count, ?words, ?bytes, fun other => ⟨fun same => ?determined, fun same => ?shown⟩⟩
  case feeds => rw [digits, toList_signature, List.flatMap_map]
  case count => rw [digits, List.length_map]
  case words =>
    rw [digits, List.forall₂_map_left_iff, List.forall₂_same]
    exact fun w _ => Hex.spellsWord_wordDigits w
  case bytes =>
    have joined : lines.flatten = (log.bytes .big).flatMap Hex.byteDigits := by
      rw [digits, ← List.flatMap_def, bytes, List.flatMap_assoc]
      rfl
    rw [joined, Hex.bytes?_flatMap_byteDigits]
  case determined =>
    have spelled : other.words.map Hex.wordDigits = log.words.map Hex.wordDigits := by
      rw [← lines_signature, ← lines_signature, same]
    exact (List.map_inj_right fun _ _ => Hex.wordDigits_injective).mp spelled
  case shown => rw [signature, signature, same]

end Log

end HartTraps
