import HartTraps.Csr.Address

/-!
# The control and status register file

A file keeps the registers that are not zero, in the order of their addresses, so that it has one
form only: `CsrFile.ext` says that files which read alike are equal. `CsrFile.read_write` is the law
of writes.
-/

namespace HartTraps

/-- One register and its word. -/
abbrev CsrEntry := CsrAddress × Word

namespace CsrEntry

/-- The word at an address among entries, 0 if there is none. -/
def wordAt : List CsrEntry → CsrAddress → Word
  | [], _ => 0
  | (i, v) :: rest, a => if a = i then v else wordAt rest a

/-- The entries with the word at an address replaced; a zero takes the entry out. -/
def put (a : CsrAddress) (w : Word) : List CsrEntry → List CsrEntry
  | [] => if w = 0 then [] else [(a, w)]
  | (i, v) :: rest =>
    if a < i then if w = 0 then (i, v) :: rest else (a, w) :: (i, v) :: rest
    else if a = i then if w = 0 then rest else (a, w) :: rest
    else (i, v) :: put a w rest

/-- Entries in strictly increasing order of address. -/
def Ordered (entries : List CsrEntry) : Prop :=
  entries.Pairwise fun e f => e.1 < f.1

/-- Of two addresses one is smaller or they are the same. -/
theorem lt_or_eq_or_lt (a b : CsrAddress) : a < b ∨ a = b ∨ b < a := by
  rcases Nat.lt_trichotomy a.toNat b.toNat with h | h | h
  · exact .inl h
  · exact .inr (.inl (BitVec.eq_of_toNat_eq h))
  · exact .inr (.inr h)

theorem wordAt_of_lt {entries : List CsrEntry} {a : CsrAddress} (h : ∀ e ∈ entries, a < e.1) :
    wordAt entries a = 0 := by
  induction entries with
  | nil => rfl
  | cons e rest ih =>
    have ne : a ≠ e.1 := BitVec.ne_of_lt (h e List.mem_cons_self)
    rw [wordAt, if_neg ne]
    exact ih fun f hf => h f (List.mem_cons_of_mem e hf)

theorem mem_put {a : CsrAddress} {w : Word} {entries : List CsrEntry} {e : CsrEntry}
    (h : e ∈ put a w entries) : (e = (a, w) ∧ w ≠ 0) ∨ e ∈ entries := by
  induction entries with
  | nil =>
    rw [put] at h
    split at h
    · exact absurd h List.not_mem_nil
    · next hw => exact .inl ⟨List.mem_singleton.mp h, hw⟩
  | cons f rest ih =>
    obtain ⟨i, v⟩ := f
    rw [put] at h
    split at h
    · split at h
      · exact .inr h
      · next hw =>
        rcases List.mem_cons.mp h with rfl | h
        · exact .inl ⟨rfl, hw⟩
        · exact .inr h
    · split at h
      · split at h
        · exact .inr (List.mem_cons_of_mem _ h)
        · next hw =>
          rcases List.mem_cons.mp h with rfl | h
          · exact .inl ⟨rfl, hw⟩
          · exact .inr (List.mem_cons_of_mem _ h)
      · rcases List.mem_cons.mp h with rfl | h
        · exact .inr List.mem_cons_self
        · rcases ih h with new | old
          · exact .inl new
          · exact .inr (List.mem_cons_of_mem _ old)

theorem ordered_put (a : CsrAddress) (w : Word) {entries : List CsrEntry} (h : Ordered entries) :
    Ordered (put a w entries) := by
  induction entries with
  | nil =>
    rw [put]
    split
    · exact .nil
    · exact List.pairwise_singleton _ _
  | cons f rest ih =>
    obtain ⟨i, v⟩ := f
    obtain ⟨first, tail⟩ := List.pairwise_cons.mp h
    rw [put]
    split
    · next lt =>
      split
      · exact h
      · refine List.pairwise_cons.mpr ⟨fun e he => ?_, h⟩
        rcases List.mem_cons.mp he with rfl | he
        · exact lt
        · exact BitVec.lt_trans lt (first e he)
    · next nlt =>
      split
      · next eq =>
        split
        · exact tail
        · exact List.pairwise_cons.mpr ⟨fun e he => eq ▸ first e he, tail⟩
      · next ne =>
        refine List.pairwise_cons.mpr ⟨fun e he => ?_, ih tail⟩
        rcases mem_put he with ⟨rfl, -⟩ | he
        · rcases lt_or_eq_or_lt a i with lt | eq | gt
          · exact absurd lt nlt
          · exact absurd eq ne
          · exact gt
        · exact first e he

theorem wordAt_put (a b : CsrAddress) (w : Word) {entries : List CsrEntry} (h : Ordered entries) :
    wordAt (put a w entries) b = if b = a then w else wordAt entries b := by
  induction entries with
  | nil =>
    rw [put]
    split
    · next hw =>
      split
      · rw [hw, wordAt]
      · rfl
    · simp only [wordAt]
  | cons f rest ih =>
    obtain ⟨i, v⟩ := f
    obtain ⟨first, tail⟩ := List.pairwise_cons.mp h
    rw [put]
    split
    · next lt =>
      split
      · next hw =>
        split
        · next eq =>
          rw [eq, hw]
          refine wordAt_of_lt fun e he => ?_
          rcases List.mem_cons.mp he with rfl | he
          · exact lt
          · exact BitVec.lt_trans lt (first e he)
        · rfl
      · rw [wordAt]
    · split
      · next eq =>
        subst eq
        split
        · next hw =>
          split
          · next eq =>
            rw [eq, hw]
            exact wordAt_of_lt first
          · next ne => rw [wordAt, if_neg ne]
        · rw [wordAt]
          split
          · rfl
          · next ne => rw [wordAt, if_neg ne]
      · next ne =>
        rw [wordAt, ih tail, wordAt]
        split
        · next eq => rw [if_neg (eq ▸ Ne.symm ne)]
        · rfl

/-- Ordered entries without zeros are determined by the words at all addresses. -/
theorem eq_of_wordAt {entries others : List CsrEntry} (h : Ordered entries) (g : Ordered others)
    (hz : ∀ e ∈ entries, e.2 ≠ 0) (gz : ∀ e ∈ others, e.2 ≠ 0)
    (same : ∀ a, wordAt entries a = wordAt others a) : entries = others := by
  induction entries generalizing others with
  | nil =>
    cases others with
    | nil => rfl
    | cons f rest =>
      have w := same f.1
      simp only [wordAt, if_true] at w
      exact absurd w.symm (gz f List.mem_cons_self)
  | cons e rest ih =>
    cases others with
    | nil =>
      have w := same e.1
      simp only [wordAt, if_true] at w
      exact absurd w (hz e List.mem_cons_self)
    | cons f others =>
      obtain ⟨i, v⟩ := e
      obtain ⟨j, u⟩ := f
      obtain ⟨first, tail⟩ := List.pairwise_cons.mp h
      obtain ⟨gfirst, gtail⟩ := List.pairwise_cons.mp g
      have hi : i = j := by
        rcases lt_or_eq_or_lt i j with lt | eq | gt
        · have w := same i
          rw [wordAt, if_pos rfl, wordAt, if_neg (BitVec.ne_of_lt lt),
            wordAt_of_lt fun e he => BitVec.lt_trans lt (gfirst e he)] at w
          exact absurd w (hz _ List.mem_cons_self)
        · exact eq
        · have w := same j
          rw [wordAt, if_neg (BitVec.ne_of_lt gt), wordAt_of_lt fun e he => BitVec.lt_trans gt (first e he),
            wordAt, if_pos rfl] at w
          exact absurd w.symm (gz _ List.mem_cons_self)
      subst hi
      have hv : v = u := by
        have w := same i
        simpa only [wordAt, if_true] using w
      subst hv
      have rest_eq : rest = others := by
        refine ih tail gtail (fun e he => hz e (List.mem_cons_of_mem _ he))
          (fun e he => gz e (List.mem_cons_of_mem _ he)) fun a => ?_
        by_cases eq : a = i
        · rw [eq, wordAt_of_lt first, wordAt_of_lt gfirst]
        · have w := same a
          simpa only [wordAt, if_neg eq] using w
      rw [rest_eq]

end CsrEntry

/-- The registers that are not zero, in the order of their addresses. -/
structure CsrFile where
  entries : List CsrEntry
  ordered : CsrEntry.Ordered entries
  nonzero : ∀ e ∈ entries, e.2 ≠ 0
  deriving DecidableEq

namespace CsrFile

/-- A file of zeros. -/
def zero : CsrFile := ⟨[], .nil, fun _ h => absurd h List.not_mem_nil⟩

/-- The word in a register. -/
def read (file : CsrFile) (a : CsrAddress) : Word :=
  CsrEntry.wordAt file.entries a

/-- Replaces the word in a register. -/
def write (file : CsrFile) (a : CsrAddress) (w : Word) : CsrFile :=
  ⟨CsrEntry.put a w file.entries, CsrEntry.ordered_put a w file.ordered, fun e he => by
    rcases CsrEntry.mem_put he with ⟨rfl, hw⟩ | he
    · exact hw
    · exact file.nonzero e he⟩

@[ext] theorem ext {f g : CsrFile} (h : ∀ a, f.read a = g.read a) : f = g := by
  have e := CsrEntry.eq_of_wordAt f.ordered g.ordered f.nonzero g.nonzero h
  cases f
  cases g
  cases e
  rfl

@[simp] theorem read_zero (a : CsrAddress) : zero.read a = 0 := rfl

theorem read_write (file : CsrFile) (a b : CsrAddress) (w : Word) :
    (file.write a w).read b = if b = a then w else file.read b :=
  CsrEntry.wordAt_put a b w file.ordered

@[simp] theorem read_write_self (file : CsrFile) (a : CsrAddress) (w : Word) :
    (file.write a w).read a = w := by
  rw [read_write, if_pos rfl]

@[simp] theorem read_write_of_ne {file : CsrFile} {a b : CsrAddress} {w : Word} (h : b ≠ a) :
    (file.write a w).read b = file.read b := by
  rw [read_write, if_neg h]

/-- The registers that are not zero, by raw 16-bit address. -/
def rawEntries (file : CsrFile) : List (BitVec 16 × Word) :=
  file.entries.map fun e => (e.1.setWidth 16, e.2)

/-- Stores an entry; an address outside the file is ignored. -/
def store (file : CsrFile) (entry : BitVec 16 × Word) : CsrFile :=
  match CsrAddress.ofRaw? entry.1 with
  | some a => file.write a entry.2
  | none => file

/-- The file with the given entries and zeros elsewhere; of two entries for one address the later counts. -/
def ofRawEntries (entries : List (BitVec 16 × Word)) : CsrFile :=
  entries.foldl store zero

end CsrFile

end HartTraps
