import HartTraps.Snapshot.Basic

/-!
# Snapshot files

A snapshot file is the binary form of a snapshot, field by field. The whole file is decoded before
anything in it is checked; what follows the snapshot is ignored.
-/

namespace HartTraps

instance : Binary Verdict where
  write
    | .pass => Binary.writeAlternative 0
    | .fail code => Binary.writeAlternative 1 ++ Binary.write code
    | .fatal cause => Binary.writeAlternative 2 ++ Binary.write cause
  read := Binary.readAlternative
    [pure .pass, Verdict.fail <$> Binary.read, Verdict.fatal <$> Binary.read]

instance : Binary Phase where
  write
    | .idle => Binary.writeAlternative 0
    | .dispatched level => Binary.writeAlternative 1 ++ Binary.write level
    | .resuming level => Binary.writeAlternative 2 ++ Binary.write level
    | .halted verdict => Binary.writeAlternative 3 ++ Binary.write verdict
  read := Binary.readAlternative
    [pure .idle, Phase.dispatched <$> Binary.read, Phase.resuming <$> Binary.read,
      Phase.halted <$> Binary.read]

/-- The 32 slots follow each other without a length. -/
instance : Binary RegFile where
  write file := file.toList.flatMap Binary.write
  read := RegFile.ofList <$> Reader.times Binary.read 32

instance : Binary LogImage where
  write image :=
    Binary.write image.virtualBase ++ Binary.write image.physicalBase ++
      Binary.write image.capacity ++ Binary.write image.digest ++ Binary.write image.words
  read := do
    let virtualBase ← Binary.read
    let physicalBase ← Binary.read
    let capacity ← Binary.read
    let digest ← Binary.read
    let words ← Binary.read
    return { virtualBase, physicalBase, capacity, digest, words }

instance : Binary Snapshot where
  write s :=
    Binary.write s.version ++ Binary.write s.settings ++ Binary.write s.pc ++ Binary.write s.mode ++
      Binary.write s.registers ++ Binary.write s.csrs ++ Binary.write s.machineFrame ++
      Binary.write s.supervisorFrame ++ Binary.write s.phase ++ Binary.write s.defaultVector ++
      Binary.write s.log
  read := do
    let version ← Binary.read
    let settings ← Binary.read
    let pc ← Binary.read
    let mode ← Binary.read
    let registers ← Binary.read
    let csrs ← Binary.read
    let machineFrame ← Binary.read
    let supervisorFrame ← Binary.read
    let phase ← Binary.read
    let defaultVector ← Binary.read
    let log ← Binary.read
    return { version, settings, pc, mode, registers, csrs, machineFrame, supervisorFrame, phase,
             defaultVector, log }

namespace Snapshot

/-- The snapshot at the front of a file. -/
def ofFile (bytes : List UInt8) : Except BenchError Snapshot :=
  match Binary.read.run bytes with
  | .ok (s, _) => .ok s
  | .error cause => .error (.undecodable cause)

/-- The bytes of a snapshot file. -/
def file (s : Snapshot) : List UInt8 :=
  Binary.write s

end Snapshot

namespace Bench

/-- The bytes of the file that stores a bench. -/
def save (b : Bench) : List UInt8 :=
  b.snapshot.file

/-- The bench that a file stores. -/
def load (bytes : List UInt8) : Except BenchError Bench := do
  (← Snapshot.ofFile bytes).restore

end Bench

end HartTraps
