import HartTraps.Proofs.Text.Numeral
import HartTraps.Script.Parser

/-!
# Operands as they are read

Which words are accepted as a number, as an instruction and as a register, and what is read from them: a
number denotes its value (`Numeral.Denotes`), which is less than `2 ^ 64` and in an instruction less than
`2 ^ 32`; a register has its role or `x` and its index. Any other word is refused, so that no value is ever
cut to the width of its operand.
-/

namespace HartTraps

open Numeral (Denotes Signed)

/-- The registers that can be named by their roles. -/
def Register.roles : List (List Char × Register) :=
  [("ra".toList, 1), ("t0".toList, 5), ("a0".toList, 10), ("a1".toList, 11), ("a2".toList, 12)]

/-- The words that name a register. -/
inductive Register.Named (r : Register) : List Char → Prop where
  | role {word : List Char} (known : (word, r) ∈ roles) : Named r word
  | index {cs : List Char} (signed : Signed 10 cs r.toNat) : Named r ('x' :: cs)

namespace Script

theorem bind_eq_ok {ε α β : Type} {x : Except ε α} {f : α → Except ε β} {y : β} :
    (x >>= f) = .ok y ↔ ∃ a, x = .ok a ∧ f a = .ok y := by
  cases x <;> simp [bind, Except.bind]

theorem bind_eq_error {ε α β : Type} {x : Except ε α} {f : α → Except ε β} {e : ε} :
    (x >>= f) = .error e ↔ x = .error e ∨ ∃ a, x = .ok a ∧ f a = .error e := by
  cases x <;> simp [bind, Except.bind]

variable {word : Token}

/-! ## Numbers -/

theorem number_eq_ok_iff {w : Word} : number word = .ok w ↔ Denotes word w.toNat := by
  rw [← Numeral.word?_eq_some_iff]
  unfold number
  cases Numeral.word? word <;> simp

theorem number_eq_error_iff {problem : Problem} :
    number word = .error problem ↔
      problem = .invalidNumber (String.ofList word) ∧ ¬ ∃ n < 2 ^ 64, Denotes word n := by
  rw [← Numeral.word?_eq_none_iff]
  unfold number
  cases Numeral.word? word <;> simp [eq_comm]

/-! ## Instructions -/

theorem instructionOf_eq (word : Token) :
    instructionOf word = number word >>= fun w =>
      if w.toNat < 2 ^ 32 then .ok (w.setWidth 32) else .error (.wideInstruction (String.ofList word)) :=
  rfl

theorem instructionOf_eq_ok_iff {i : BitVec 32} : instructionOf word = .ok i ↔ Denotes word i.toNat := by
  rw [instructionOf_eq, bind_eq_ok]
  constructor
  · rintro ⟨w, read, done⟩
    split at done
    · next small =>
      cases done
      rw [BitVec.toNat_setWidth, Nat.mod_eq_of_lt small]
      exact number_eq_ok_iff.mp read
    · cases done
  · intro denotes
    have narrow := i.isLt
    have same : (i.setWidth 64).toNat = i.toNat := by
      rw [BitVec.toNat_setWidth]
      omega
    refine ⟨i.setWidth 64, number_eq_ok_iff.mpr (same ▸ denotes), ?_⟩
    rw [if_pos (same ▸ narrow), BitVec.setWidth_setWidth_of_le i (by decide), BitVec.setWidth_eq]

theorem instructionOf_eq_error_iff {problem : Problem} :
    instructionOf word = .error problem ↔
      (problem = .invalidNumber (String.ofList word) ∧ ¬ ∃ n < 2 ^ 64, Denotes word n) ∨
        problem = .wideInstruction (String.ofList word) ∧ ∃ n < 2 ^ 64, 2 ^ 32 ≤ n ∧ Denotes word n := by
  rw [instructionOf_eq, bind_eq_error, number_eq_error_iff]
  refine or_congr_right ⟨?_, ?_⟩
  · rintro ⟨w, read, done⟩
    split at done
    · cases done
    · next wide =>
      cases done
      exact ⟨rfl, w.toNat, w.isLt, Nat.not_lt.mp wide, number_eq_ok_iff.mp read⟩
  · rintro ⟨rfl, n, below, wide, denotes⟩
    have same : (BitVec.ofNat 64 n).toNat = n := by
      rw [BitVec.toNat_ofNat, Nat.mod_eq_of_lt below]
    refine ⟨BitVec.ofNat 64 n, number_eq_ok_iff.mpr (by rwa [same]), ?_⟩
    rw [same, if_neg (Nat.not_lt.mpr wide)]

/-! ## Registers -/

theorem registerIndex?_of_index (cs : List Char) :
    registerIndex? ('x' :: cs) = Numeral.value? 10 32 cs := by
  simp [registerIndex?]

theorem named_of_registerIndex? {n : Nat} (found : registerIndex? word = some n) :
    Register.Named (BitVec.ofNat 5 n) word := by
  unfold registerIndex? at found
  iterate 5
    split at found
    · next role =>
      cases found
      exact .role (role ▸ by decide)
  split at found
  · next cs =>
    obtain ⟨signed, below⟩ := (Numeral.value?_eq_some_iff (by decide)).mp found
    refine .index ?_
    rwa [BitVec.toNat_ofNat, Nat.mod_eq_of_lt below]
  · cases found

theorem registerOf_eq_ok_iff {r : Register} : registerOf word = .ok r ↔ r.Named word := by
  constructor
  · intro done
    unfold registerOf at done
    split at done
    · next n found =>
      cases done
      exact named_of_registerIndex? found
    · cases done
  · rintro (known | signed)
    · simp only [Register.roles, List.mem_cons, Prod.mk.injEq, List.not_mem_nil, or_false] at known
      rcases known with ⟨rfl, rfl⟩ | ⟨rfl, rfl⟩ | ⟨rfl, rfl⟩ | ⟨rfl, rfl⟩ | ⟨rfl, rfl⟩ <;> rfl
    · have whole : BitVec.ofNat 5 r.toNat = r := BitVec.ofNat_toNat 5 r ▸ BitVec.setWidth_eq r
      unfold registerOf
      rw [registerIndex?_of_index, (Numeral.value?_eq_some_iff (by decide)).mpr ⟨signed, r.isLt⟩]
      exact congrArg Except.ok whole

theorem registerOf_eq_error_iff {problem : Problem} :
    registerOf word = .error problem ↔
      problem = .invalidRegister (String.ofList word) ∧ ¬ ∃ r : Register, r.Named word := by
  simp only [← registerOf_eq_ok_iff]
  unfold registerOf
  cases registerIndex? word <;> simp [eq_comm]

/-! ## Operands on a line -/

/-- A trap with an instruction is read if and only if each of its operands denotes a number of its width. -/
theorem command_trap_eq_ok_iff {cause address instruction : Token} {c : Command} :
    command "trap".toList [cause, address, instruction] = .ok c ↔
      ∃ w a i, c = .trap w (some a) (some i) ∧ Denotes cause w.toNat ∧ Denotes address a.toNat ∧
        Denotes instruction i.toNat := by
  show (do
    let instruction ← some <$> instructionOf instruction
    let cause ← number cause
    return Command.trap cause (← some <$> number address) instruction) = _ ↔ _
  simp only [← number_eq_ok_iff, ← instructionOf_eq_ok_iff]
  cases instructionOf instruction <;> cases number cause <;> cases number address <;>
    simp [bind, Except.bind, pure, Except.pure, eq_comm]

/-- A register is read with a word if and only if the one is named and the other denoted. -/
theorem command_register_eq_ok_iff {name value : Token} {c : Command} :
    command "reg".toList [name, value] = .ok c ↔
      ∃ r w, c = .register r w ∧ r.Named name ∧ Denotes value w.toNat := by
  show (do
    let r ← registerOf name
    return Command.register r (← number value)) = _ ↔ _
  simp only [← number_eq_ok_iff, ← registerOf_eq_ok_iff]
  cases registerOf name <;> cases number value <;>
    simp [bind, Except.bind, pure, Except.pure, eq_comm]

/-- A word denotes one number at most. As a number it is read if this fits 64 bits, and as an instruction if it
fits 32; as a register it is read if it names one. In each case it is read as just this, on a line too, and any
other word is refused. -/
theorem operands_exact (word : Token) :
    (∀ n, Denotes word n → ∀ m, Denotes word m → m = n) ∧
      (∀ w, number word = .ok w ↔ Denotes word w.toNat) ∧
      (number word = .error (.invalidNumber (String.ofList word)) ↔ ¬ ∃ n < 2 ^ 64, Denotes word n) ∧
      (∀ i, instructionOf word = .ok i ↔ Denotes word i.toNat) ∧
      (instructionOf word = .error (.wideInstruction (String.ofList word)) ↔
        ∃ n < 2 ^ 64, 2 ^ 32 ≤ n ∧ Denotes word n) ∧
      (∀ cause address c, command "trap".toList [cause, address, word] = .ok c ↔
        ∃ w a i, c = .trap w (some a) (some i) ∧ Denotes cause w.toNat ∧ Denotes address a.toNat ∧
          Denotes word i.toNat) ∧
      (∀ r, registerOf word = .ok r ↔ r.Named word) ∧
      (registerOf word = .error (.invalidRegister (String.ofList word)) ↔ ¬ ∃ r : Register, r.Named word) ∧
      ∀ value c, command "reg".toList [word, value] = .ok c ↔
        ∃ r w, c = .register r w ∧ r.Named word ∧ Denotes value w.toNat := by
  refine ⟨fun n denotes m other => other.unique denotes, fun w => number_eq_ok_iff, ?refused,
    fun i => instructionOf_eq_ok_iff, ?wide, fun cause address c => command_trap_eq_ok_iff,
    fun r => registerOf_eq_ok_iff, ?nameless, fun value c => command_register_eq_ok_iff⟩
  case refused =>
    rw [number_eq_error_iff, eq_self_iff_true, true_and]
  case wide =>
    rw [instructionOf_eq_error_iff]
    simp
  case nameless =>
    rw [registerOf_eq_error_iff, eq_self_iff_true, true_and]

/-- The least number that does not fit 64 bits is refused, and one that does not fit 32 is no instruction. The
index of a register may have a plus sign and a zero in front. -/
theorem operands_exact_atBounds :
    number "1844_6744073709551616".toList = .error (.invalidNumber "1844_6744073709551616") ∧
      number "0x+fFFFfFFF_0".toList = .ok 0xFFFFFFFF0 ∧
      instructionOf "0x+fFFFfFFF_0".toList = .error (.wideInstruction "0x+fFFFfFFF_0") ∧
      registerOf "x+031".toList = .ok 31 := by
  have decimal : Denotes "1844_6744073709551616".toList (2 ^ 64) :=
    .decimal (.bare ((Numeral.digits_iff (by decide)).mpr ⟨by decide, by rfl⟩))
  have hexadecimal : Denotes "0x+fFFFfFFF_0".toList 0xFFFFFFFF0 :=
    .hexadecimal rfl (.plus ((Numeral.digits_iff (by decide)).mpr ⟨by decide, by rfl⟩))
  have index : Signed 10 "+031".toList 31 :=
    .plus ((Numeral.digits_iff (by decide)).mpr ⟨by decide, by rfl⟩)
  obtain ⟨unique, -, refused, -⟩ := operands_exact "1844_6744073709551616".toList
  obtain ⟨-, read, -, -, wide, -⟩ := operands_exact "0x+fFFFfFFF_0".toList
  obtain ⟨-, -, -, -, -, -, named, -⟩ := operands_exact "x+031".toList
  refine ⟨refused.mpr ?_, (read _).mpr hexadecimal, wide.mpr ⟨_, by decide, by decide, hexadecimal⟩,
    (named 31).mpr (.index index)⟩
  rintro ⟨n, below, denotes⟩
  rw [unique _ decimal n denotes] at below
  exact absurd below (Nat.lt_irrefl _)

end Script

end HartTraps
