import HartTraps.Bytes.Codec

/-!
# Settings of a bench

The settings fix how far a resume steps, whether causes are logged, how large the result log is and
where it lies, and where the hart starts.
-/

namespace HartTraps

/-- How far past the trapping instruction a resume lands. -/
inductive StepRule where
  /-- Always four bytes. -/
  | fixed
  /-- Two bytes after a compressed instruction, four otherwise. -/
  | decoded
  deriving DecidableEq

namespace StepRule

/-- The name of the rule in reports. -/
def name : StepRule → String
  | fixed => "Fixed"
  | decoded => "DecodeLength"

/-- The step over an instruction; an instruction whose two low bits are not both set is compressed. -/
def length : StepRule → Option (BitVec 32) → Word
  | decoded, some instruction => if instruction &&& 3 = 3 then 4 else 2
  | _, _ => 4

end StepRule

/-- The settings of a bench and their defaults. -/
structure Settings where
  stepRule : StepRule := .fixed
  recordCauses : Bool := false
  logCapacity : Word := 512
  virtualLogBase : Word := 0x80002000
  physicalLogBase : Word := 0x80002000
  byteOrder : ByteOrder := .little
  entryPc : Word := 0x80000000
  deriving DecidableEq

instance : Binary StepRule where
  write
    | .fixed => Binary.writeAlternative 0
    | .decoded => Binary.writeAlternative 1
  read := Binary.readAlternative [pure .fixed, pure .decoded]

instance : Binary Settings where
  write s :=
    Binary.write s.stepRule ++ Binary.write s.recordCauses ++ Binary.write s.logCapacity ++
      Binary.write s.virtualLogBase ++ Binary.write s.physicalLogBase ++
      Binary.write s.byteOrder ++ Binary.write s.entryPc
  read := do
    let stepRule ← Binary.read
    let recordCauses ← Binary.read
    let logCapacity ← Binary.read
    let virtualLogBase ← Binary.read
    let physicalLogBase ← Binary.read
    let byteOrder ← Binary.read
    let entryPc ← Binary.read
    return { stepRule, recordCauses, logCapacity, virtualLogBase, physicalLogBase, byteOrder, entryPc }

end HartTraps
