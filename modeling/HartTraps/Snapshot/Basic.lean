import HartTraps.Bench.Run
import HartTraps.Bytes.Sha256

/-!
# Snapshots

A snapshot is a bench as a value that can be stored: registers and control registers as lists, and
the logged words with their digest. `Snapshot.restore` checks the format version, the digest and the
capacity, in this order.
-/

namespace HartTraps

/-- The result log of a snapshot. -/
structure LogImage where
  virtualBase : Word
  physicalBase : Word
  capacity : Word
  /-- The SHA-256 digest of the words in hexadecimal. -/
  digest : String
  words : List Word
  deriving DecidableEq

namespace LogImage

/-- The digest of logged words: over their bytes, lowest first. -/
def digestOf (words : List Word) : String :=
  Sha256.hexDigest (words.flatMap ByteOrder.little.bytes)

/-- The image of a log. -/
def ofLog (log : Log) : LogImage :=
  { virtualBase := log.virtualBase
    physicalBase := log.physicalBase
    capacity := log.capacity
    digest := digestOf log.words
    words := log.words }

/-- The log of an image. -/
def log (image : LogImage) : Log :=
  { words := image.words
    capacity := image.capacity
    virtualBase := image.virtualBase
    physicalBase := image.physicalBase }

@[simp] theorem log_ofLog (log : Log) : (ofLog log).log = log := rfl

end LogImage

/-- A stored bench. -/
structure Snapshot where
  version : String
  settings : Settings
  pc : Word
  mode : Mode
  registers : RegFile
  /-- Entries at raw addresses; of two entries for one address the later counts. -/
  csrs : List (BitVec 16 × Word)
  machineFrame : Option TrapFrame
  supervisorFrame : Option TrapFrame
  phase : Phase
  defaultVector : Word
  log : LogImage
  deriving DecidableEq

namespace Snapshot

/-- The format version that is written and read. -/
def currentVersion : String := "1.0"

/-- The snapshot with other control register entries. -/
def withEntries (s : Snapshot) (entries : List (BitVec 16 × Word)) : Snapshot :=
  { s with csrs := entries }

/-- The bench of a snapshot, without any check. -/
def bench (s : Snapshot) : Bench :=
  { hart := { pc := s.pc, mode := s.mode, registers := s.registers, csrs := .ofRawEntries s.csrs }
    log := s.log.log
    settings := s.settings
    machineFrame := s.machineFrame
    supervisorFrame := s.supervisorFrame
    phase := s.phase
    defaultVector := s.defaultVector }

/-- The bench of a snapshot, unless its version, digest or size is wrong. -/
def restore (s : Snapshot) : Except BenchError Bench :=
  if s.version ≠ currentVersion then
    .error (.snapshotVersion currentVersion s.version)
  else if LogImage.digestOf s.log.words ≠ s.log.digest then
    .error .snapshotDigest
  else if s.log.capacity.toNat < s.log.words.length then
    .error (.snapshotLogOverflow s.log.words.length s.log.capacity)
  else
    .ok s.bench

end Snapshot

/-- The snapshot of a bench. -/
def Bench.snapshot (b : Bench) : Snapshot :=
  { version := Snapshot.currentVersion
    settings := b.settings
    pc := b.hart.pc
    mode := b.hart.mode
    registers := b.hart.registers
    csrs := b.hart.csrs.rawEntries
    machineFrame := b.machineFrame
    supervisorFrame := b.supervisorFrame
    phase := b.phase
    defaultVector := b.defaultVector
    log := .ofLog b.log }

end HartTraps
