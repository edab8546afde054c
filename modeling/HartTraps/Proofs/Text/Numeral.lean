import Mathlib.Algebra.Group.Nat.Defs
import Mathlib.Data.List.Induction
import HartTraps.Text.Blank
import HartTraps.Text.Numeral

/-!
# Numerals and their values

`Numeral.Digits` says which digits have which value, place by place, and `Numeral.Spells` which words
are numbers in decimal or, behind `0x`, in hexadecimal. Such a word is read as its value. A word may have a
plus sign as well; `Numeral.Denotes` takes in all words that are read, and `word?_eq_some_iff` says that they
are read as their values, each of which fits a machine word.
-/

namespace HartTraps.Numeral

/-- A character is a digit of a base with this value; a letter may be of either case. -/
def IsDigit (base : Nat) (c : Char) (d : Nat) : Prop :=
  d < base ∧ (c = Nat.digitChar d ∨ c = (Nat.digitChar d).toUpper)

/-- Digits of a base and their value: each further digit multiplies the value by the base. -/
inductive Digits (base : Nat) : List Char → Nat → Prop where
  | first {c : Char} {d : Nat} (digit : IsDigit base c d) : Digits base [c] d
  | next {cs : List Char} {n : Nat} {c : Char} {d : Nat} (digits : Digits base cs n)
      (digit : IsDigit base c d) : Digits base (cs ++ [c]) (base * n + d)

/-- The words that stand for a number, with or without underscores. -/
inductive Spells (n : Nat) (word : List Char) : Prop where
  | decimal (digits : Digits 10 (word.filter (· ≠ '_')) n)
  | hexadecimal {ds : List Char} (marker : word.filter (· ≠ '_') = '0' :: 'x' :: ds)
      (digits : Digits 16 ds n)

/-- Digits and their value, where a plus sign may stand before the digits. -/
inductive Signed (base : Nat) : List Char → Nat → Prop where
  | bare {cs : List Char} {n : Nat} (digits : Digits base cs n) : Signed base cs n
  | plus {cs : List Char} {n : Nat} (digits : Digits base cs n) : Signed base ('+' :: cs) n

/-- The words that are read as a number: in decimal or, behind `0x`, in hexadecimal, where underscores do not
count. -/
inductive Denotes (word : List Char) (n : Nat) : Prop where
  | decimal (signed : Signed 10 (word.filter (· ≠ '_')) n)
  | hexadecimal {cs : List Char} (marker : word.filter (· ≠ '_') = '0' :: 'x' :: cs)
      (signed : Signed 16 cs n)

variable {base n : Nat} {cs : List Char}

theorem Digits.ne_nil (digits : Digits base cs n) : cs ≠ [] := by
  cases digits with
  | first => exact List.cons_ne_nil _ _
  | next => exact List.append_ne_nil_of_right_ne_nil _ (List.cons_ne_nil _ _)

theorem Digits.isDigit (digits : Digits base cs n) : ∀ c ∈ cs, ∃ d, IsDigit base c d := by
  induction digits with
  | first digit =>
    intro c member
    rw [List.mem_singleton] at member
    exact ⟨_, member ▸ digit⟩
  | next digits digit ih =>
    intro c member
    rcases List.mem_append.mp member with before | last
    · exact ih c before
    · rw [List.mem_singleton] at last
      exact ⟨_, last ▸ digit⟩

/-- A character with the value of a digit is this digit. -/
theorem isDigit_of_value {c : Char} {d : Nat} (value : Hex.digitValue? c = some d) (low : d < base) :
    IsDigit base c d := by
  have table : ∀ k < 128, (Hex.digitValue? (Char.ofNat k)).all fun d =>
      Char.ofNat k = Nat.digitChar d ∨ Char.ofNat k = (Nat.digitChar d).toUpper := by decide
  have ascii : c.toNat < 128 := by
    unfold Hex.digitValue? at value
    split at value
    · next decimal => exact Nat.lt_of_le_of_lt decimal.2 (by decide)
    · split at value
      · next lower => exact Nat.lt_of_le_of_lt lower.2 (by decide)
      · split at value
        · next upper => exact Nat.lt_of_le_of_lt upper.2 (by decide)
        · cases value
  have entry := table c.toNat ascii
  rw [Char.ofNat_toNat, value, Option.all_some, decide_eq_true_eq] at entry
  exact ⟨low, entry⟩

theorem digits?_concat (cs : List Char) (c : Char) :
    digits? base (cs ++ [c]) =
      (digits? base cs).bind fun v => (Hex.digitValue? c).bind fun d =>
        if d < base then some (base * v + d) else none := by
  unfold digits?
  rw [List.foldl_append]
  rfl

/-- What is read as digits consists of digits with this value. -/
theorem digits_of_value (some_left : cs ≠ []) (value : digits? base cs = some n) : Digits base cs n := by
  induction cs using List.reverseRecOn generalizing n with
  | nil => exact absurd rfl some_left
  | append_singleton cs c ih =>
    rw [digits?_concat] at value
    obtain ⟨v, before, value⟩ := Option.bind_eq_some_iff.mp value
    obtain ⟨d, digit, value⟩ := Option.bind_eq_some_iff.mp value
    split at value
    · next low =>
      cases value
      have last := isDigit_of_value digit low
      cases cs with
      | nil =>
        cases before
        rw [Nat.mul_zero, Nat.zero_add]
        exact .first last
      | cons x cs => exact .next (ih (List.cons_ne_nil x cs) before) last
    · cases value

section Small

variable (small : base ≤ 16)

include small

theorem IsDigit.value {c : Char} {d : Nat} (digit : IsDigit base c d) :
    Hex.digitValue? c = some d := by
  have table : ∀ d < 16, Hex.digitValue? (Nat.digitChar d) = some d ∧
      Hex.digitValue? (Nat.digitChar d).toUpper = some d := by decide
  obtain ⟨lower, upper⟩ := table d (Nat.lt_of_lt_of_le digit.1 small)
  rcases digit.2 with rfl | rfl
  · exact lower
  · exact upper

/-- A digit is none of the characters that structure a word or a line. -/
theorem IsDigit.ne_mark {c : Char} {d : Nat} (digit : IsDigit base c d) :
    Text.isBlank c = false ∧ c ∉ ['#', '_', '+', 'x'] := by
  have table : ∀ d < 16,
      (Text.isBlank (Nat.digitChar d) = false ∧ Nat.digitChar d ∉ ['#', '_', '+', 'x']) ∧
        Text.isBlank (Nat.digitChar d).toUpper = false ∧
          (Nat.digitChar d).toUpper ∉ ['#', '_', '+', 'x'] := by decide
  obtain ⟨lower, upper⟩ := table d (Nat.lt_of_lt_of_le digit.1 small)
  rcases digit.2 with rfl | rfl
  · exact lower
  · exact upper

theorem Digits.value (digits : Digits base cs n) : digits? base cs = some n := by
  induction digits with
  | first digit =>
    simp [digits?, digit.value small, digit.1]
  | next digits digit ih =>
    rw [digits?_concat, ih]
    simp [digit.value small, digit.1]

theorem digits_iff : Digits base cs n ↔ cs ≠ [] ∧ digits? base cs = some n :=
  ⟨fun digits => ⟨digits.ne_nil, digits.value small⟩, fun read => digits_of_value read.1 read.2⟩

/-- Digits have no plus sign. -/
theorem Digits.dropPlus_eq (digits : Digits base cs n) : dropPlus cs = cs := by
  unfold dropPlus
  split
  · obtain ⟨d, digit⟩ := digits.isDigit '+' List.mem_cons_self
    exact absurd (by decide) (digit.ne_mark small).2
  · rfl

theorem signed_iff : Signed base cs n ↔ Digits base (dropPlus cs) n := by
  constructor
  · rintro (digits | digits)
    · rwa [digits.dropPlus_eq small]
    · exact digits
  · intro digits
    unfold dropPlus at digits
    split at digits
    · exact .plus digits
    · exact .bare digits

theorem Signed.unique {m : Nat} (signed : Signed base cs n) (other : Signed base cs m) : n = m := by
  have value := ((signed_iff small).mp signed).value small
  have other_value := ((signed_iff small).mp other).value small
  exact Option.some.inj (value.symm.trans other_value)

/-- A numeral is read as its value if and only if that lies below the bound. -/
theorem value?_eq_some_iff {bound : Nat} :
    value? base bound cs = some n ↔ Signed base cs n ∧ n < bound := by
  unfold value?
  dsimp only
  rw [signed_iff small, digits_iff small]
  cases dropPlus cs with
  | nil => simp
  | cons c ds => simp [Option.filter_eq_some_iff]

end Small

/-- The marker of a hexadecimal number is no part of a decimal one. -/
theorem not_signed_of_marker : ¬ Signed 10 ('0' :: 'x' :: cs) n := by
  intro signed
  obtain ⟨d, digit⟩ := ((signed_iff (by decide)).mp signed).isDigit 'x' (by simp [dropPlus])
  exact absurd (by decide) (digit.ne_mark (by decide)).2

/-- A word denotes one number at most. -/
theorem Denotes.unique {m : Nat} (denotes : Denotes cs n) (other : Denotes cs m) : n = m := by
  rcases denotes with signed | ⟨marker, signed⟩ <;> rcases other with other | ⟨same, other⟩
  · exact signed.unique (by decide) other
  · rw [same] at signed
    exact absurd signed not_signed_of_marker
  · rw [marker] at other
    exact absurd other not_signed_of_marker
  · rw [marker] at same
    cases same
    exact signed.unique (by decide) other

/-- A word is read as a machine word if and only if it denotes the value of this one. -/
theorem word?_eq_some_iff {w : Word} : word? cs = some w ↔ Denotes cs w.toNat := by
  have span : Endian.span 8 = 2 ^ 64 := rfl
  have exact_value {base : Nat} (small : base ≤ 16) (ds : List Char) :
      (value? base (Endian.span 8) ds).map (BitVec.ofNat 64) = some w ↔ Signed base ds w.toNat := by
    rw [Option.map_eq_some_iff]
    constructor
    · rintro ⟨n, read, rfl⟩
      obtain ⟨signed, below⟩ := (value?_eq_some_iff small).mp read
      rwa [BitVec.toNat_ofNat, ← span, Nat.mod_eq_of_lt below]
    · intro signed
      have below : w.toNat < Endian.span 8 := w.isLt
      have whole : BitVec.ofNat 64 w.toNat = w := BitVec.ofNat_toNat 64 w ▸ BitVec.setWidth_eq w
      exact ⟨w.toNat, (value?_eq_some_iff small).mpr ⟨signed, below⟩, whole⟩
  unfold word?
  dsimp only
  split
  · next hex marker =>
    rw [exact_value (by decide)]
    refine ⟨.hexadecimal marker, ?_⟩
    rintro (signed | ⟨same, signed⟩)
    · rw [marker] at signed
      exact absurd signed not_signed_of_marker
    · rw [marker] at same
      cases same
      exact signed
  · next decimal =>
    rw [exact_value (by decide)]
    refine ⟨.decimal, ?_⟩
    rintro (signed | ⟨marker, -⟩)
    · exact signed
    · exact absurd marker (decimal _)

/-- A word is not read if it denotes no number that fits a machine word. -/
theorem word?_eq_none_iff : word? cs = none ↔ ¬ ∃ n < 2 ^ 64, Denotes cs n := by
  rw [Option.eq_none_iff_forall_ne_some, not_exists]
  constructor
  · rintro unread n ⟨below, denotes⟩
    refine unread (BitVec.ofNat 64 n) (word?_eq_some_iff.mpr ?_)
    rwa [BitVec.toNat_ofNat, Nat.mod_eq_of_lt below]
  · intro none_fits w read
    exact none_fits w.toNat ⟨w.isLt, word?_eq_some_iff.mp read⟩

theorem Spells.denotes (spells : Spells n cs) : Denotes cs n := by
  cases spells with
  | decimal digits => exact .decimal (.bare digits)
  | hexadecimal marker digits => exact .hexadecimal marker (.bare digits)

/-- The characters of a number are neither blank nor the start of a comment. -/
theorem Spells.plain (spells : Spells n cs) : ∀ c ∈ cs, Text.isBlank c = false ∧ c ≠ '#' := by
  intro c member
  by_cases mark : c = '_'
  · subst mark
    decide
  · have kept : c ∈ cs.filter (· ≠ '_') := List.mem_filter.mpr ⟨member, by simpa using mark⟩
    have plain {base : Nat} (small : base ≤ 16) {ds : List Char} (digits : Digits base ds n)
        (among : c ∈ ds) : Text.isBlank c = false ∧ c ≠ '#' := by
      obtain ⟨d, digit⟩ := digits.isDigit c among
      obtain ⟨blank, marks⟩ := digit.ne_mark small
      exact ⟨blank, fun same => marks (same ▸ List.mem_cons_self)⟩
    cases spells with
    | decimal digits => exact plain (by decide) digits kept
    | hexadecimal marker digits =>
      rw [marker] at kept
      rcases List.mem_cons.mp kept with rfl | kept
      · decide
      · rcases List.mem_cons.mp kept with rfl | kept
        · decide
        · exact plain (by decide) digits kept

theorem Spells.ne_nil (spells : Spells n cs) : cs ≠ [] := by
  rintro rfl
  cases spells with
  | decimal digits => exact digits.ne_nil rfl
  | hexadecimal marker => cases marker

/-- The shortest digits of a number. -/
theorem digits_toDigits (positional : 1 < base) (n : Nat) : Digits base (Nat.toDigits base n) n := by
  induction n using Nat.strongRecOn with
  | ind n ih =>
    rw [Nat.toDigits_eq_if positional]
    split
    · next low => exact .first ⟨low, .inl rfl⟩
    · next high =>
      have less : n / base < n := Nat.div_lt_self (by omega) positional
      have last : IsDigit base (Nat.digitChar (n % base)) (n % base) :=
        ⟨Nat.mod_lt n (by omega), .inl rfl⟩
      have digits := (ih (n / base) less).next last
      rwa [Nat.div_add_mod] at digits

/-- Every number has a spelling. -/
theorem spells_toDigits (n : Nat) : Spells n (Nat.toDigits 10 n) := by
  have digits : Digits 10 (Nat.toDigits 10 n) n := digits_toDigits (by decide) n
  have bare : (Nat.toDigits 10 n).filter (· ≠ '_') = Nat.toDigits 10 n := by
    refine List.filter_eq_self.mpr fun c member => ?_
    obtain ⟨d, digit⟩ := digits.isDigit c member
    have marks := (digit.ne_mark (by decide)).2
    simp only [List.mem_cons, not_or] at marks
    exact decide_eq_true marks.2.1
  exact .decimal (by rwa [bare])

end HartTraps.Numeral
