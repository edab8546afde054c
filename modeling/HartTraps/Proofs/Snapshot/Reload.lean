import HartTraps.Proofs.Snapshot.ReadBack
import HartTraps.Proofs.Snapshot.Restore

/-!
# Loading what was saved

A bench whose log fits into its region is what its snapshot restores and its file loads, in whatever
order the control registers are written.
-/

namespace HartTraps.Bench

variable {b : Bench} {entries : List (BitVec 16 × Word)}

/-- A snapshot restores its bench, with the entries in any order. -/
theorem restore_of_perm (fits : b.log.Fits) (perm : entries.Perm b.hart.csrs.rawEntries) :
    (b.snapshot.withEntries entries).restore = .ok b := by
  have csrs : CsrFile.ofRawEntries entries = b.hart.csrs :=
    CsrFile.ofRawEntries_of_perm b.hart.csrs perm
  have bench : (b.snapshot.withEntries entries).bench = b := by
    show { b with hart := { b.hart with csrs := .ofRawEntries entries } } = b
    rw [csrs]
  have sound : (b.snapshot.withEntries entries).Sound := ⟨rfl, rfl, fits⟩
  rw [Snapshot.restore_of_sound sound, bench]

/-- The file of a snapshot is read back, with the entries in any order. -/
theorem ofFile_of_perm (fits : b.log.Fits) (perm : entries.Perm b.hart.csrs.rawEntries) :
    Snapshot.ofFile (b.snapshot.withEntries entries).file = .ok (b.snapshot.withEntries entries) := by
  have version : Snapshot.currentVersion.utf8ByteSize < Endian.span 8 := by decide
  have few : entries.length < Endian.span 8 := by
    have bound := b.hart.csrs.length_rawEntries_le
    rw [← perm.length_eq] at bound
    exact Nat.lt_of_le_of_lt bound (by decide)
  have short : b.log.words.length < Endian.span 8 := Nat.lt_of_le_of_lt fits b.log.capacity.isLt
  have taken := Binary.takes_snapshot (s := b.snapshot.withEntries entries) version few
    (LogImage.utf8ByteSize_digestOf_lt b.log.words) short []
  rw [List.append_nil] at taken
  unfold Snapshot.ofFile Snapshot.file
  rw [taken]

/-- A file loads its bench, with the entries in any order. -/
theorem load_of_perm (fits : b.log.Fits) (perm : entries.Perm b.hart.csrs.rawEntries) :
    load (b.snapshot.withEntries entries).file = .ok b := by
  unfold load
  rw [ofFile_of_perm fits perm]
  exact restore_of_perm fits perm

theorem restore_snapshot (fits : b.log.Fits) : b.snapshot.restore = .ok b :=
  restore_of_perm fits (.refl _)

theorem load_save (fits : b.log.Fits) : load b.save = .ok b :=
  load_of_perm fits (.refl _)

end HartTraps.Bench
