import Mathlib.Data.Fintype.Card
import HartTraps.Proofs.Binary.Canonical
import HartTraps.Proofs.Binary.Truncation
import HartTraps.Proofs.Csr.RawWords
import HartTraps.Proofs.Snapshot.ReadBack

/-!
# The snapshot format is canonical

Every part of a snapshot has a canonical form and is read from the front, field by field. So a file
stands for one snapshot at most, what follows the snapshot does not matter, and a file that ends too
early is refused for this reason and for no other. `Snapshot.file_canonical` says so of whole files; the
entries of the control registers may stand in any order, and each order has a form of its own.
-/

namespace HartTraps

namespace Binary

open Reader CanonicalBinary

instance : CanonicalBinary Mode where
  consumes := consumes_alternative fun i item declared => by
    match i, declared with
    | 0, rfl => exact .pure rfl
    | 1, rfl => exact .pure rfl
    | 2, rfl => exact .pure rfl

instance : CanonicalBinary StepRule where
  consumes := consumes_alternative fun i item declared => by
    match i, declared with
    | 0, rfl => exact .pure rfl
    | 1, rfl => exact .pure rfl

instance : CanonicalBinary Verdict where
  consumes := consumes_alternative fun i item declared => by
    match i, declared with
    | 0, rfl => exact .pure rfl
    | 1, rfl => exact consumes.map fun _ _ form => form ▸ rfl
    | 2, rfl => exact consumes.map fun _ _ form => form ▸ rfl

instance : CanonicalBinary Phase where
  consumes := consumes_alternative fun i item declared => by
    match i, declared with
    | 0, rfl => exact .pure rfl
    | 1, rfl => exact consumes.map fun _ _ form => form ▸ rfl
    | 2, rfl => exact consumes.map fun _ _ form => form ▸ rfl
    | 3, rfl => exact consumes.map fun _ _ form => form ▸ rfl

instance : CanonicalBinary Settings where
  consumes :=
    consumes_field fun _ => consumes_field fun _ => consumes_field fun _ => consumes_field fun _ =>
      consumes_field fun _ => consumes_field fun _ => consumes_field fun _ =>
        .pure (by simp only [write, List.append_assoc, List.append_nil])

instance : CanonicalBinary CallRequest where
  consumes :=
    consumes_field fun _ => consumes_field fun _ => consumes_field fun _ =>
      .pure (by simp only [write, List.append_assoc, List.append_nil])

instance : CanonicalBinary Scratch where
  consumes :=
    consumes_field fun _ => consumes_field fun _ =>
      .pure (by simp only [write, List.append_nil])

instance : CanonicalBinary TrapFrame where
  consumes :=
    consumes_field fun _ => consumes_field fun _ => consumes_field fun _ => consumes_field fun _ =>
      consumes_field fun _ => .pure (by simp only [write, List.append_assoc, List.append_nil])

/-- The 32 slots are read back as they are written: without a length. -/
instance : CanonicalBinary RegFile where
  consumes := by
    refine (consumes_times consumes 32).map fun _ words ⟨form, length⟩ => ?_
    show _ = (RegFile.ofList words).toList.flatMap write
    rw [form, RegFile.toList_ofList length]

instance : CanonicalBinary LogImage where
  consumes :=
    consumes_field fun _ => consumes_field fun _ => consumes_field fun _ => consumes_field fun _ =>
      consumes_field fun _ => .pure (by simp only [write, List.append_assoc, List.append_nil])

instance : CanonicalBinary Snapshot where
  consumes :=
    consumes_field fun _ => consumes_field fun _ => consumes_field fun _ => consumes_field fun _ =>
      consumes_field fun _ => consumes_field fun _ => consumes_field fun _ => consumes_field fun _ =>
        consumes_field fun _ => consumes_field fun _ => consumes_field fun _ =>
          .pure (by simp only [write, List.append_assoc, List.append_nil])

end Binary

/-! ## A snapshot is read from the front -/

namespace Binary

open Reader StreamedBinary

instance : StreamedBinary Mode where
  streams := by
    refine streams_alternative ?_
    simp only [List.forall_mem_cons]
    exact ⟨.pure _, .pure _, .pure _, List.forall_mem_nil _⟩

instance : StreamedBinary StepRule where
  streams := by
    refine streams_alternative ?_
    simp only [List.forall_mem_cons]
    exact ⟨.pure _, .pure _, List.forall_mem_nil _⟩

instance : StreamedBinary Verdict where
  streams := by
    refine streams_alternative ?_
    simp only [List.forall_mem_cons]
    exact ⟨.pure _, streams.map _, streams.map _, List.forall_mem_nil _⟩

instance : StreamedBinary Phase where
  streams := by
    refine streams_alternative ?_
    simp only [List.forall_mem_cons]
    exact ⟨.pure _, streams.map _, streams.map _, streams.map _, List.forall_mem_nil _⟩

instance : StreamedBinary Settings where
  streams := streams.bind fun _ => streams.bind fun _ => streams.bind fun _ => streams.bind fun _ =>
    streams.bind fun _ => streams.bind fun _ => streams.bind fun _ => .pure _

instance : StreamedBinary CallRequest where
  streams := streams.bind fun _ => streams.bind fun _ => streams.bind fun _ => .pure _

instance : StreamedBinary Scratch where
  streams := streams.bind fun _ => streams.bind fun _ => .pure _

instance : StreamedBinary TrapFrame where
  streams := streams.bind fun _ => streams.bind fun _ => streams.bind fun _ => streams.bind fun _ =>
    streams.bind fun _ => .pure _

instance : StreamedBinary RegFile where
  streams := (streams_times streams 32).map RegFile.ofList

instance : StreamedBinary LogImage where
  streams := streams.bind fun _ => streams.bind fun _ => streams.bind fun _ => streams.bind fun _ =>
    streams.bind fun _ => .pure _

instance : StreamedBinary Snapshot where
  streams := streams.bind fun _ => streams.bind fun _ => streams.bind fun _ => streams.bind fun _ =>
    streams.bind fun _ => streams.bind fun _ => streams.bind fun _ => streams.bind fun _ =>
      streams.bind fun _ => streams.bind fun _ => streams.bind fun _ => .pure _

end Binary

/-! ## Whole files -/

/-- Entries with distinct addresses are no more than there are raw addresses. -/
theorem CsrFile.length_le_of_distinct {entries : List (BitVec 16 × Word)}
    (distinct : (entries.map Prod.fst).Nodup) : entries.length ≤ Endian.span 2 := by
  have numbered : ((entries.map Prod.fst).map BitVec.toFin).Nodup :=
    distinct.map fun _ _ same => BitVec.toFin_inj.mp same
  have bound := numbered.length_le_card
  rw [Fintype.card_fin, List.length_map, List.length_map] at bound
  exact bound

namespace Snapshot

/-- A snapshot as it can be written: each address stands in one entry only, and the lengths of texts and
lists fit into their 64 bits. -/
structure Storable (s : Snapshot) : Prop where
  distinct : (s.csrs.map Prod.fst).Nodup
  version : s.version.utf8ByteSize < Endian.span 8
  digest : s.log.digest.utf8ByteSize < Endian.span 8
  words : s.log.words.length < Endian.span 8

theorem Storable.withEntries {s : Snapshot} (storable : s.Storable)
    {entries : List (BitVec 16 × Word)} (perm : entries.Perm s.csrs) :
    (s.withEntries entries).Storable :=
  ⟨(perm.map Prod.fst).nodup_iff.mpr storable.distinct, storable.version, storable.digest,
    storable.words⟩

/-- A snapshot is read off the front of its file. -/
theorem Storable.takes {s : Snapshot} (storable : s.Storable) :
    (Binary.read : Reader Snapshot).Takes s.file s :=
  Binary.takes_snapshot storable.version
    (Nat.lt_of_le_of_lt (CsrFile.length_le_of_distinct storable.distinct) (by decide))
    storable.digest storable.words

theorem ofFile_eq_ok_iff {bytes : List UInt8} {s : Snapshot} :
    ofFile bytes = .ok s ↔ ∃ rest, (Binary.read : Reader Snapshot).run bytes = .ok (s, rest) := by
  unfold ofFile
  cases (Binary.read : Reader Snapshot).run bytes with
  | error e => simp
  | ok p =>
    obtain ⟨t, rest⟩ := p
    simp

/-- The order of entries with distinct addresses does not matter to the bench. -/
theorem bench_withEntries {s : Snapshot} (distinct : (s.csrs.map Prod.fst).Nodup)
    {entries : List (BitVec 16 × Word)} (perm : entries.Perm s.csrs) :
    (s.withEntries entries).bench = s.bench := by
  have csrs : CsrFile.ofRawEntries entries = CsrFile.ofRawEntries s.csrs := by
    refine CsrFile.ext fun a => ?_
    rw [CsrFile.read_ofRawEntries, CsrFile.read_ofRawEntries, CsrFile.rawWord?_of_perm perm distinct]
  unfold bench withEntries
  rw [csrs]

/-- The format of snapshot files leaves no choice but the order of the entries. A file that begins with
the form of a snapshot is read as this snapshot, whatever follows and whatever order its entries have;
what is read has exactly the form that was taken off the file; and of a form that is cut short bytes are
missed, no more than the whole form has. -/
theorem file_canonical :
    (∀ (s : Snapshot) (entries : List (BitVec 16 × Word)) (rest : List UInt8),
      s.Storable → entries.Perm s.csrs →
        (Binary.read : Reader Snapshot).run ((s.withEntries entries).file ++ rest) =
            .ok (s.withEntries entries, rest) ∧
          ofFile ((s.withEntries entries).file ++ rest) = .ok (s.withEntries entries) ∧
          (∀ raw, CsrFile.rawWord? entries raw = CsrFile.rawWord? s.csrs raw) ∧
          (s.withEntries entries).bench = s.bench) ∧
    (∀ (bytes : List UInt8) (s : Snapshot), ofFile bytes = .ok s → (s.csrs.map Prod.fst).Nodup →
      (∀ raw w, CsrFile.rawWord? s.csrs raw = some w ↔ (raw, w) ∈ s.csrs) ∧
        ∃ rest, (Binary.read : Reader Snapshot).run bytes = .ok (s, rest) ∧ bytes = s.file ++ rest) ∧
    (∀ (s : Snapshot) (front back : List UInt8), s.Storable → front ++ back = s.file → back ≠ [] →
      ∃ wanted, wanted ≤ s.file.length ∧
        ofFile front = .error (.undecodable (.endOfInput wanted))) := by
  refine ⟨?reading, ?rewriting, ?cutting⟩
  case reading =>
    intro s entries rest storable perm
    have read := (storable.withEntries perm).takes rest
    exact ⟨read, ofFile_eq_ok_iff.mpr ⟨rest, read⟩, CsrFile.rawWord?_of_perm perm storable.distinct,
      bench_withEntries storable.distinct perm⟩
  case rewriting =>
    intro bytes s decoded distinct
    obtain ⟨rest, read⟩ := ofFile_eq_ok_iff.mp decoded
    obtain ⟨front, split, form⟩ := CanonicalBinary.consumes bytes s rest read
    refine ⟨fun raw w => CsrFile.rawWord?_eq_some_iff distinct, rest, read, ?_⟩
    rw [split, form]
    rfl
  case cutting =>
    intro s front back storable split strict
    have whole := storable.takes []
    rw [List.append_nil, ← split] at whole
    obtain ⟨wanted, bound, missed⟩ := StreamedBinary.streams.truncated whole strict
    refine ⟨wanted, split ▸ bound, ?_⟩
    unfold ofFile
    rw [missed]

/-- A run that failed in a call, with an entry past the control registers. -/
def failedRun : Snapshot :=
  { version := "1.0"
    settings := { recordCauses := true }
    pc := 0x80000300
    mode := .supervisor
    registers := RegFile.zero.write .a0 1
    csrs := [(0x105, 0x80000300), (0x302, 0x100), (0x1000, 7)]
    machineFrame := none
    supervisorFrame := some { pending := some ⟨1, 5, 0⟩, instruction := some 0x73, trapsTaken := 1 }
    phase := .halted (.fail 5)
    defaultVector := 0
    log :=
      { virtualBase := 0x80002000, physicalBase := 0x80002000, capacity := 4, digest := "0a",
        words := [8] } }

/-- Its file is read in both orders of its entries and with bytes after it, is written back as it was,
and is missed bytes of once its last 40 bytes are cut off. -/
theorem file_canonical_failedRun :
    failedRun.Storable ∧ failedRun.csrs.reverse.Perm failedRun.csrs ∧
      ofFile ((failedRun.withEntries failedRun.csrs.reverse).file ++ [1, 2]) =
        .ok (failedRun.withEntries failedRun.csrs.reverse) ∧
      (∃ rest, (Binary.read : Reader Snapshot).run (failedRun.file ++ [1, 2]) = .ok (failedRun, rest) ∧
        failedRun.file ++ [1, 2] = failedRun.file ++ rest) ∧
      ∃ wanted, wanted ≤ failedRun.file.length ∧
        ofFile (failedRun.file.take (failedRun.file.length - 40)) =
          .error (.undecodable (.endOfInput wanted)) := by
  have storable : failedRun.Storable := ⟨by decide, by decide, by decide, by decide⟩
  have perm : failedRun.csrs.reverse.Perm failedRun.csrs := List.reverse_perm _
  obtain ⟨reading, rewriting, cutting⟩ := file_canonical
  have read := (reading failedRun failedRun.csrs [1, 2] storable (.refl _)).2.1
  have strict : failedRun.file.drop (failedRun.file.length - 40) ≠ [] := by decide +kernel
  exact ⟨storable, perm, (reading failedRun _ [1, 2] storable perm).2.1,
    (rewriting _ failedRun read storable.distinct).2,
    cutting failedRun _ _ storable (List.take_append_drop _ _) strict⟩

end Snapshot

end HartTraps
