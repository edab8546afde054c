import HartTraps.Proofs.Binary.ReadBack
import HartTraps.Snapshot.File

/-!
# Reading back a snapshot

Every field of a snapshot is of a lawful type or a text or list. So a snapshot is read back from its
file as soon as its version, its entries, its digest and its words can be stored; the digest always
can.
-/

namespace HartTraps

namespace Binary

open Reader LawfulBinary

instance : LawfulBinary Mode where
  takes
    | .user => takes_constant rfl (by decide)
    | .supervisor => takes_constant rfl (by decide)
    | .machine => takes_constant rfl (by decide)

instance : LawfulBinary StepRule where
  takes
    | .fixed => takes_constant rfl (by decide)
    | .decoded => takes_constant rfl (by decide)

instance : LawfulBinary Verdict where
  takes
    | .pass => takes_constant rfl (by decide)
    | .fail code => takes_alternative rfl (takes code).map (by decide)
    | .fatal cause => takes_alternative rfl (takes cause).map (by decide)

instance : LawfulBinary Phase where
  takes
    | .idle => takes_constant rfl (by decide)
    | .dispatched level => takes_alternative rfl (takes level).map (by decide)
    | .resuming level => takes_alternative rfl (takes level).map (by decide)
    | .halted verdict => takes_alternative rfl (takes verdict).map (by decide)

instance : LawfulBinary Settings where
  takes s := by
    show Reader.Takes read (_ ++ _ ++ _ ++ _ ++ _ ++ _ ++ _) s
    simp only [List.append_assoc]
    exact (takes s.stepRule).bind ((takes s.recordCauses).bind ((takes s.logCapacity).bind
      ((takes s.virtualLogBase).bind ((takes s.physicalLogBase).bind ((takes s.byteOrder).bind
        (takes s.entryPc).last)))))

instance : LawfulBinary CallRequest where
  takes r := by
    show Reader.Takes read (_ ++ _ ++ _) r
    simp only [List.append_assoc]
    exact (takes r.op).bind ((takes r.page).bind (takes r.pageType).last)

instance : LawfulBinary Scratch where
  takes s := (takes s.ra).bind (takes s.t0).last

instance : LawfulBinary TrapFrame where
  takes f := by
    show Reader.Takes read (_ ++ _ ++ _ ++ _ ++ _) f
    simp only [List.append_assoc]
    exact (takes f.saved).bind ((takes f.resumeAddress).bind ((takes f.pending).bind
      ((takes f.instruction).bind (takes f.trapsTaken).last)))

instance : LawfulBinary RegFile where
  takes file := by
    have slots : (times read file.toList.length).Takes (file.toList.flatMap write) file.toList :=
      takes_times fun w _ => takes w
    rw [file.length_toList] at slots
    have taken := slots.map (g := RegFile.ofList)
    rw [RegFile.ofList_toList] at taken
    exact taken

/-- The image of a log is read back if its digest and its words can be stored. -/
theorem takes_logImage {image : LogImage} (digest : image.digest.utf8ByteSize < Endian.span 8)
    (words : image.words.length < Endian.span 8) : (read : Reader LogImage).Takes (write image) image := by
  show Reader.Takes read (_ ++ _ ++ _ ++ _ ++ _) image
  simp only [List.append_assoc]
  exact (takes image.virtualBase).bind ((takes image.physicalBase).bind
    ((takes image.capacity).bind ((takes_string digest).bind (takes_list words).last)))

/-- A snapshot is read back if its version, its entries and its log can be stored. -/
theorem takes_snapshot {s : Snapshot} (version : s.version.utf8ByteSize < Endian.span 8)
    (entries : s.csrs.length < Endian.span 8) (digest : s.log.digest.utf8ByteSize < Endian.span 8)
    (words : s.log.words.length < Endian.span 8) : (read : Reader Snapshot).Takes (write s) s := by
  show Reader.Takes read (_ ++ _ ++ _ ++ _ ++ _ ++ _ ++ _ ++ _ ++ _ ++ _ ++ _) s
  simp only [List.append_assoc]
  exact (takes_string version).bind ((takes s.settings).bind ((takes s.pc).bind
    ((takes s.mode).bind ((takes s.registers).bind ((takes_list entries).bind
      ((takes s.machineFrame).bind ((takes s.supervisorFrame).bind ((takes s.phase).bind
        ((takes s.defaultVector).bind (takes_logImage digest words).last)))))))))

end Binary

theorem utf8ByteSize_ofList_le (cs : List Char) :
    (String.ofList cs).utf8ByteSize ≤ 4 * cs.length := by
  induction cs with
  | nil => decide
  | cons c cs ih =>
    have split : String.ofList (c :: cs) = String.singleton c ++ String.ofList cs := by
      rw [String.singleton_eq_ofList, ← String.ofList_append]
      rfl
    have first := c.utf8Size_le_four
    rw [split, String.utf8ByteSize_append, String.utf8ByteSize_singleton, List.length_cons]
    omega

theorem Sha256.length_digest (message : List UInt8) : (digest message).length = 32 := by
  have chaining (k n : Nat) : (highFirst k n).length = k := by
    simp only [highFirst, List.length_map, List.length_reverse, List.length_range]
  simp [digest, chaining]

/-- A digest has 64 digits, whatever the words. -/
theorem LogImage.utf8ByteSize_digestOf_lt (words : List Word) :
    (digestOf words).utf8ByteSize < Endian.span 8 := by
  have digits := utf8ByteSize_ofList_le
    ((Sha256.digest (words.flatMap ByteOrder.little.bytes)).flatMap Hex.byteDigits)
  rw [Hex.length_byteDigits, Sha256.length_digest] at digits
  exact Nat.lt_of_le_of_lt digits (by decide)

end HartTraps
