import HartTraps.Csr.File

/-!
# Raw entries of control registers

The entries of a file are its registers that are not zero, each at an address of its own; an entry that is
stored is a register from then on, if its address is one.
-/

namespace HartTraps

theorem CsrAddress.ofRaw?_eq_some_iff {raw : BitVec 16} {a : CsrAddress} :
    ofRaw? raw = some a ↔ raw = a.setWidth 16 := by
  have bound := a.isLt
  unfold ofRaw?
  constructor
  · intro h
    split at h
    · next small =>
      cases h
      apply BitVec.eq_of_toNat_eq
      simp only [BitVec.toNat_setWidth]
      omega
    · cases h
  · intro h
    subst h
    have small : (a.setWidth 16).toNat < 4096 := by
      simp only [BitVec.toNat_setWidth]
      omega
    rw [if_pos small]
    refine congrArg some (BitVec.eq_of_toNat_eq ?_)
    simp only [BitVec.toNat_setWidth]
    omega

@[simp] theorem CsrAddress.ofRaw?_setWidth (a : CsrAddress) : ofRaw? (a.setWidth 16) = some a :=
  ofRaw?_eq_some_iff.mpr rfl

/-- The raw addresses of registers are those up to the last register. -/
theorem CsrAddress.exists_setWidth_iff {raw : BitVec 16} :
    (∃ a : CsrAddress, raw = a.setWidth 16) ↔ raw.toNat ≤ 0xFFF := by
  constructor
  · rintro ⟨a, rfl⟩
    have bound := a.isLt
    simp only [BitVec.toNat_setWidth]
    omega
  · intro small
    refine ⟨raw.setWidth 12, ?_⟩
    apply BitVec.eq_of_toNat_eq
    simp only [BitVec.toNat_setWidth]
    omega

namespace CsrEntry

/-- Ordered entries hold the words that are found in them. -/
theorem mem_iff_wordAt {entries : List CsrEntry} (ordered : Ordered entries)
    (nonzero : ∀ e ∈ entries, e.2 ≠ 0) {a : CsrAddress} {w : Word} (hw : w ≠ 0) :
    (a, w) ∈ entries ↔ wordAt entries a = w := by
  induction entries with
  | nil => exact iff_of_false List.not_mem_nil hw.symm
  | cons e rest ih =>
    obtain ⟨i, v⟩ := e
    obtain ⟨first, tail⟩ := List.pairwise_cons.mp ordered
    have ih := ih tail fun f hf => nonzero f (List.mem_cons_of_mem _ hf)
    rw [wordAt, List.mem_cons]
    by_cases at_first : a = i
    · subst at_first
      have absent : (a, w) ∉ rest := fun h => BitVec.lt_irrefl a (first _ h)
      simp only [Prod.mk.injEq, true_and, absent, or_false, if_true]
      exact eq_comm
    · simp only [Prod.mk.injEq, at_first, false_and, false_or, if_false, ih]

/-- There are at most as many ordered entries as there are addresses from the first one on. -/
theorem length_add_le {entries : List CsrEntry} (ordered : Ordered entries) {n : Nat}
    (from_n : ∀ e ∈ entries, n ≤ e.1.toNat) (h : n ≤ 4096) : entries.length + n ≤ 4096 := by
  induction entries generalizing n with
  | nil => simpa using h
  | cons e rest ih =>
    obtain ⟨first, tail⟩ := List.pairwise_cons.mp ordered
    have here := from_n e List.mem_cons_self
    have bound := e.1.isLt
    have more := ih tail (n := e.1.toNat + 1) (fun f hf => first f hf) (by omega)
    rw [List.length_cons]
    omega

end CsrEntry

namespace CsrFile

variable (file : CsrFile)

theorem length_rawEntries_le : file.rawEntries.length ≤ 4096 := by
  unfold rawEntries
  rw [List.length_map]
  exact CsrEntry.length_add_le (n := 0) file.ordered (fun _ _ => Nat.zero_le _) (by decide)

/-- The raw entries are the registers that are not zero. -/
theorem mem_rawEntries_iff {raw : BitVec 16} {w : Word} :
    (raw, w) ∈ file.rawEntries ↔ ∃ a, CsrAddress.ofRaw? raw = some a ∧ w ≠ 0 ∧ file.read a = w := by
  unfold rawEntries read
  rw [List.mem_map]
  constructor
  · rintro ⟨⟨a, v⟩, member, same⟩
    cases same
    have hv := file.nonzero _ member
    exact ⟨a, CsrAddress.ofRaw?_setWidth a, hv,
      (CsrEntry.mem_iff_wordAt file.ordered file.nonzero hv).mp member⟩
  · rintro ⟨a, raw_eq, hw, found⟩
    refine ⟨(a, w), (CsrEntry.mem_iff_wordAt file.ordered file.nonzero hw).mpr found, ?_⟩
    rw [CsrAddress.ofRaw?_eq_some_iff.mp raw_eq]

theorem mem_rawEntries_setWidth_iff {a : CsrAddress} {w : Word} :
    (a.setWidth 16, w) ∈ file.rawEntries ↔ w ≠ 0 ∧ file.read a = w := by
  rw [mem_rawEntries_iff]
  simp

/-- The raw entries have distinct addresses. -/
theorem nodup_rawEntries : (file.rawEntries.map Prod.fst).Nodup := by
  unfold rawEntries
  rw [List.map_map]
  refine List.pairwise_map.mpr (file.ordered.imp fun {e f} lt same => ?_)
  have same : CsrAddress.ofRaw? (e.1.setWidth 16) = CsrAddress.ofRaw? (f.1.setWidth 16) :=
    congrArg CsrAddress.ofRaw? same
  rw [CsrAddress.ofRaw?_setWidth, CsrAddress.ofRaw?_setWidth] at same
  exact BitVec.ne_of_lt lt (Option.some.inj same)

theorem read_store (entry : BitVec 16 × Word) (a : CsrAddress) :
    (file.store entry).read a =
      if CsrAddress.ofRaw? entry.1 = some a then entry.2 else file.read a := by
  unfold store
  cases raw : CsrAddress.ofRaw? entry.1 with
  | none => simp
  | some b =>
    simp only [read_write, Option.some.injEq]
    by_cases h : a = b
    · rw [if_pos h, if_pos h.symm]
    · rw [if_neg h, if_neg (Ne.symm h)]

end CsrFile

end HartTraps
