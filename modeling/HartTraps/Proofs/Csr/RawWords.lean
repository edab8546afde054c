import Mathlib.Data.List.Induction
import Mathlib.Data.List.Nodup
import HartTraps.Proofs.Csr.RawEntries

/-!
# Words at raw addresses

Entries give each raw address a word or none; of two entries for one address the later counts. This is
all that a file takes from them, and what it gives back is what they say of its registers, zeros left out
(`CsrFile.mem_rawEntries_ofRawEntries_iff`). Entries with distinct addresses are given back by their words,
up to their order, so that a file is restored from its own entries (`CsrFile.ofRawEntries_of_perm`).
-/

namespace HartTraps.CsrFile

/-- The word that entries give a raw address. -/
def rawWord? (entries : List (BitVec 16 × Word)) (raw : BitVec 16) : Option Word :=
  entries.reverse.lookup raw

theorem rawWord?_append (entries : List (BitVec 16 × Word)) (last : BitVec 16 × Word)
    (raw : BitVec 16) :
    rawWord? (entries ++ [last]) raw = if raw = last.1 then some last.2 else rawWord? entries raw := by
  unfold rawWord?
  rw [List.reverse_append, List.reverse_singleton, List.singleton_append, List.lookup_cons]
  by_cases here : raw = last.1
  · rw [if_pos here, here, beq_self_eq_true]
  · rw [if_neg here, beq_eq_false_iff_ne.mpr here]

/-- A file reads what its entries give, and zero where they give nothing. -/
theorem read_ofRawEntries (entries : List (BitVec 16 × Word)) (a : CsrAddress) :
    (ofRawEntries entries).read a = (rawWord? entries (a.setWidth 16)).getD 0 := by
  unfold ofRawEntries
  induction entries using List.reverseRecOn with
  | nil => rfl
  | append_singleton entries last ih =>
    rw [List.foldl_append, List.foldl_cons, List.foldl_nil, read_store, ih, rawWord?_append]
    by_cases here : last.1 = a.setWidth 16
    · rw [if_pos (CsrAddress.ofRaw?_eq_some_iff.mpr here), if_pos here.symm, Option.getD_some]
    · rw [if_neg fun same => here (CsrAddress.ofRaw?_eq_some_iff.mp same), if_neg (Ne.symm here)]

/-- Entries with distinct addresses are what they give. -/
theorem rawWord?_eq_some_iff {entries : List (BitVec 16 × Word)}
    (distinct : (entries.map Prod.fst).Nodup) {raw : BitVec 16} {w : Word} :
    rawWord? entries raw = some w ↔ (raw, w) ∈ entries := by
  induction entries using List.reverseRecOn with
  | nil => simp [rawWord?]
  | append_singleton entries last ih =>
    rw [List.map_append, List.nodup_append] at distinct
    obtain ⟨others, -, apart⟩ := distinct
    rw [rawWord?_append, List.mem_append, List.mem_singleton]
    by_cases here : raw = last.1
    · subst here
      have absent : (last.1, w) ∉ entries := fun member =>
        apart last.1 (List.mem_map.mpr ⟨_, member, rfl⟩) last.1 List.mem_cons_self rfl
      rw [if_pos rfl, Option.some.injEq, Prod.ext_iff]
      simp only [absent, false_or, true_and]
      exact eq_comm
    · have other : (raw, w) ≠ last := fun same => here (congrArg Prod.fst same)
      rw [if_neg here, ih others]
      simp only [other, or_false]

/-- Entries with distinct addresses give the same words in any order. -/
theorem rawWord?_of_perm {entries others : List (BitVec 16 × Word)} (perm : entries.Perm others)
    (distinct : (others.map Prod.fst).Nodup) (raw : BitVec 16) :
    rawWord? entries raw = rawWord? others raw := by
  have alike : (entries.map Prod.fst).Nodup := (perm.map Prod.fst).nodup_iff.mpr distinct
  refine Option.ext fun w => ?_
  rw [rawWord?_eq_some_iff alike, rawWord?_eq_some_iff distinct, perm.mem_iff]

/-- The entries of a file determine it, in any order. -/
theorem ofRawEntries_of_perm (file : CsrFile) {entries : List (BitVec 16 × Word)}
    (perm : entries.Perm file.rawEntries) : ofRawEntries entries = file := by
  refine ext fun a => ?_
  rw [read_ofRawEntries, rawWord?_of_perm perm file.nodup_rawEntries]
  have held (w : Word) : rawWord? file.rawEntries (a.setWidth 16) = some w ↔ w ≠ 0 ∧ file.read a = w := by
    rw [rawWord?_eq_some_iff file.nodup_rawEntries, mem_rawEntries_setWidth_iff]
  by_cases zeroed : file.read a = 0
  · have absent : rawWord? file.rawEntries (a.setWidth 16) = none := by
      refine Option.eq_none_iff_forall_ne_some.mpr fun w found => ?_
      obtain ⟨nonzero, same⟩ := (held w).mp found
      exact nonzero (same.symm.trans zeroed)
    rw [absent, Option.getD_none, zeroed]
  · rw [(held _).mpr ⟨zeroed, rfl⟩, Option.getD_some]

/-- Of what entries give, a file keeps the words of its registers that are not zero, and nothing else. -/
theorem mem_rawEntries_ofRawEntries_iff {entries : List (BitVec 16 × Word)} {raw : BitVec 16} {w : Word} :
    (raw, w) ∈ (ofRawEntries entries).rawEntries ↔
      raw.toNat ≤ 0xFFF ∧ w ≠ 0 ∧ rawWord? entries raw = some w := by
  have kept (a : CsrAddress) : (a.setWidth 16, w) ∈ (ofRawEntries entries).rawEntries ↔
      w ≠ 0 ∧ rawWord? entries (a.setWidth 16) = some w := by
    rw [mem_rawEntries_setWidth_iff, read_ofRawEntries]
    refine and_congr_right fun nonzero => ?_
    cases rawWord? entries (a.setWidth 16) with
    | none => exact iff_of_false (fun zero => nonzero zero.symm) (Option.some_ne_none w).symm
    | some v => simp
  constructor
  · intro member
    obtain ⟨a, address, -, -⟩ := (mem_rawEntries_iff _).mp member
    obtain rfl := CsrAddress.ofRaw?_eq_some_iff.mp address
    exact ⟨CsrAddress.exists_setWidth_iff.mp ⟨a, rfl⟩, (kept a).mp member⟩
  · rintro ⟨small, given⟩
    obtain ⟨a, rfl⟩ := CsrAddress.exists_setWidth_iff.mpr small
    exact (kept a).mpr given

/-- Entries with distinct addresses come back up to their order, without the zeros and the addresses that are
no register. -/
theorem rawEntries_ofRawEntries_perm {entries : List (BitVec 16 × Word)}
    (distinct : (entries.map Prod.fst).Nodup) :
    (ofRawEntries entries).rawEntries.Perm
      (entries.filter fun e => e.1.toNat ≤ 0xFFF ∧ e.2 ≠ 0) := by
  refine (List.perm_ext_iff_of_nodup (List.Nodup.of_map _ (nodup_rawEntries _))
    ((List.Nodup.of_map _ distinct).filter _)).mpr ?_
  rintro ⟨raw, w⟩
  rw [mem_rawEntries_ofRawEntries_iff, rawWord?_eq_some_iff distinct, List.mem_filter, decide_eq_true_iff]
  constructor
  · rintro ⟨small, nonzero, member⟩
    exact ⟨member, small, nonzero⟩
  · rintro ⟨member, small, nonzero⟩
    exact ⟨small, nonzero, member⟩

end HartTraps.CsrFile
