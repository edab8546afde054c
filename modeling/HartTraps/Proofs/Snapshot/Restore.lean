import HartTraps.Proofs.Csr.RawWords
import HartTraps.Snapshot.Basic

/-!
# Restoring snapshots of any origin

A snapshot need not have been taken of a bench: it may have been edited or made up. It is refused for the
first thing that is wrong with it (`Snapshot.Refused`) and otherwise restored (`Snapshot.Sound`). The bench
then has all that the snapshot says: a snapshot of it is the one that it was restored from, but for the
entries of control registers, of which zeros and addresses past the last register are dropped
(`Snapshot.restore_exact`).
-/

namespace HartTraps.Snapshot

/-- A snapshot in the known format with genuine words that fit into their region. Words are genuine if the
digest is that of their bytes, lowest first. -/
structure Sound (s : Snapshot) : Prop where
  version : s.version = currentVersion
  digest : s.log.digest = Sha256.hexDigest (s.log.words.flatMap ByteOrder.little.bytes)
  fits : s.log.words.length ≤ s.log.capacity.toNat

/-- The reasons for which a snapshot is refused. Of several the first one counts. -/
inductive Refused (s : Snapshot) : BenchError → Prop where
  | version (other : s.version ≠ currentVersion) :
      Refused s (.snapshotVersion currentVersion s.version)
  | digest (known : s.version = currentVersion)
      (forged : s.log.digest ≠ Sha256.hexDigest (s.log.words.flatMap ByteOrder.little.bytes)) :
      Refused s .snapshotDigest
  | overflow (known : s.version = currentVersion)
      (genuine : s.log.digest = Sha256.hexDigest (s.log.words.flatMap ByteOrder.little.bytes))
      (long : s.log.capacity.toNat < s.log.words.length) :
      Refused s (.snapshotLogOverflow s.log.words.length s.log.capacity)

variable {s : Snapshot}

theorem sound_or_refused (s : Snapshot) : s.Sound ∨ ∃ e, s.Refused e := by
  by_cases known : s.version = currentVersion
  · by_cases genuine : s.log.digest = Sha256.hexDigest (s.log.words.flatMap ByteOrder.little.bytes)
    · rcases Nat.lt_or_ge s.log.capacity.toNat s.log.words.length with long | fits
      · exact .inr ⟨_, .overflow known genuine long⟩
      · exact .inl ⟨known, genuine, fits⟩
    · exact .inr ⟨_, .digest known genuine⟩
  · exact .inr ⟨_, .version known⟩

theorem restore_of_sound (sound : s.Sound) : s.restore = .ok s.bench := by
  unfold restore LogImage.digestOf
  rw [if_neg (not_not_intro sound.version), if_neg (not_not_intro sound.digest.symm),
    if_neg (Nat.not_lt.mpr sound.fits)]

theorem restore_of_refused {e : BenchError} (refused : s.Refused e) : s.restore = .error e := by
  unfold restore LogImage.digestOf
  cases refused with
  | version other => rw [if_pos other]
  | digest known forged => rw [if_neg (not_not_intro known), if_pos (Ne.symm forged)]
  | overflow known genuine long =>
    rw [if_neg (not_not_intro known), if_neg (not_not_intro genuine.symm), if_pos long]

theorem restore_eq_error_iff {e : BenchError} : s.restore = .error e ↔ s.Refused e := by
  refine ⟨fun failed => ?_, restore_of_refused⟩
  rcases s.sound_or_refused with sound | ⟨first, refused⟩
  · rw [restore_of_sound sound] at failed
    cases failed
  · rw [restore_of_refused refused] at failed
    cases failed
    exact refused

theorem restore_eq_ok_iff {b : Bench} : s.restore = .ok b ↔ s.Sound ∧ s.bench = b := by
  constructor
  · intro restored
    rcases s.sound_or_refused with sound | ⟨e, refused⟩
    · rw [restore_of_sound sound] at restored
      cases restored
      exact ⟨sound, rfl⟩
    · rw [restore_of_refused refused] at restored
      cases restored
  · rintro ⟨sound, rfl⟩
    exact restore_of_sound sound

/-- A sound snapshot and the snapshot of its bench differ in their entries only. -/
theorem Sound.snapshot_bench (sound : s.Sound) :
    s.bench.snapshot = s.withEntries (CsrFile.ofRawEntries s.csrs).rawEntries := by
  have log : LogImage.ofLog s.log.log = s.log := by
    show { s.log with digest := Sha256.hexDigest (s.log.words.flatMap ByteOrder.little.bytes) } = s.log
    rw [← sound.digest]
  show { s.withEntries (CsrFile.ofRawEntries s.csrs).rawEntries with
    version := currentVersion, log := LogImage.ofLog s.log.log } = _
  rw [log, ← sound.version]
  rfl

/-- A snapshot, whether or not it was taken of a bench, is refused for the first of the reasons that apply: its
version, its digest, its size, and for no other. A snapshot that none of them applies to is restored, and a
snapshot of the bench is the snapshot again, but for the entries: each address has one, and the entries are
those with an address of at most 0xFFF and a word other than zero. -/
theorem restore_exact (s : Snapshot) :
    (∀ e, s.restore = .error e ↔ s.Refused e) ∧
      ((∃ b, s.restore = .ok b) ↔ s.Sound) ∧
      ∀ b, s.restore = .ok b →
        b.snapshot = s.withEntries b.snapshot.csrs ∧
          (b.snapshot.csrs.map Prod.fst).Nodup ∧
          (∀ raw w, (raw, w) ∈ b.snapshot.csrs ↔
            raw.toNat ≤ 0xFFF ∧ w ≠ 0 ∧ CsrFile.rawWord? s.csrs raw = some w) ∧
          ((s.csrs.map Prod.fst).Nodup →
            b.snapshot.csrs.Perm (s.csrs.filter fun e => e.1.toNat ≤ 0xFFF ∧ e.2 ≠ 0)) := by
  refine ⟨fun _ => restore_eq_error_iff, ⟨?sound, ?restored⟩, ?taken⟩
  case sound =>
    rintro ⟨b, restored⟩
    exact (restore_eq_ok_iff.mp restored).1
  case restored =>
    intro sound
    exact ⟨s.bench, restore_of_sound sound⟩
  case taken =>
    intro b restored
    obtain ⟨sound, rfl⟩ := restore_eq_ok_iff.mp restored
    exact ⟨sound.snapshot_bench, CsrFile.nodup_rawEntries _,
      fun _ _ => CsrFile.mem_rawEntries_ofRawEntries_iff, CsrFile.rawEntries_ofRawEntries_perm⟩

/-- A made-up snapshot: x0 holds a word, the log has another capacity and other bases than the settings say, and
one entry is zero and one past the control registers. -/
def madeUp : Snapshot :=
  { version := currentVersion
    settings := { logCapacity := 7, byteOrder := .big }
    pc := 0x80000300
    mode := .user
    registers := .ofList [5, 6]
    csrs := [(0x1000, 7), (0x300, 0x1888), (0x341, 0)]
    machineFrame := none
    supervisorFrame := some { trapsTaken := 3 }
    phase := .resuming .supervisor
    defaultVector := 0x80000010
    log :=
      { virtualBase := 0x90000000, physicalBase := 0x90001000, capacity := 2,
        digest := "0c730b69905c5ef7a4ca5269f72365400bde2dd2c04eaf9bbb3d1c4a265a0131"
        words := [1, 2] } }

/-- It is restored, and a snapshot of its bench has the one entry that is left. With a third word it is refused for
its digest, or for its size if the digest is the right one, and with another version as well for the version
alone. -/
theorem restore_exact_madeUp :
    let longer (version digest : String) : Snapshot :=
      { madeUp with version, log := { madeUp.log with digest, words := [1, 2, 3] } }
    let digest := Sha256.hexDigest ([1, 2, 3].flatMap ByteOrder.little.bytes)
    madeUp.log.digest = Sha256.hexDigest ([1, 2].flatMap ByteOrder.little.bytes) ∧
      digest = "e2e2033ae7e19d680599d4eb0a1359a2b48ec5baac75066c317fbf85159c54ef" ∧
      (∃ b, madeUp.restore = .ok b ∧ b.snapshot = madeUp.withEntries [(0x300, 0x1888)]) ∧
      (longer "1.0" madeUp.log.digest).restore = .error .snapshotDigest ∧
      (longer "1.0" digest).restore = .error (.snapshotLogOverflow 3 2) ∧
      (longer "2.0" digest).restore = .error (.snapshotVersion "1.0" "2.0") := by
  intro longer digest
  have own : madeUp.log.digest = Sha256.hexDigest ([1, 2].flatMap ByteOrder.little.bytes) := by decide +kernel
  have other : digest = "e2e2033ae7e19d680599d4eb0a1359a2b48ec5baac75066c317fbf85159c54ef" := by decide +kernel
  have forged : madeUp.log.digest ≠ digest := by
    rw [other]
    decide
  refine ⟨own, other, ?restored, ((restore_exact _).1 _).mpr (.digest rfl forged),
    ((restore_exact _).1 _).mpr (.overflow rfl rfl (by decide)),
    ((restore_exact _).1 _).mpr (.version (by decide))⟩
  case restored =>
    obtain ⟨-, sound, taken⟩ := restore_exact madeUp
    obtain ⟨b, restored⟩ := sound.mpr ⟨rfl, own, by decide⟩
    obtain ⟨same, -, -, kept⟩ := taken b restored
    have csrs : b.snapshot.csrs = [(0x300, 0x1888)] := List.perm_singleton.mp (kept (by decide))
    refine ⟨b, restored, ?_⟩
    rw [same, csrs]

end HartTraps.Snapshot
