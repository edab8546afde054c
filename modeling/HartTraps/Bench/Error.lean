import HartTraps.Bytes.Codec
import HartTraps.Privilege
import HartTraps.Script.Problem
import HartTraps.TestTable.Record
import HartTraps.Text.Inspect
import HartTraps.Text.Quoted

/-!
# Errors of a bench

An error says which operation cannot be done and why. `BenchError.message` is its wording and
`BenchError.inspect` its structural text.
-/

namespace HartTraps

/-- Why an operation on a bench, or on one of its inputs, is refused. -/
inductive BenchError where
  /-- A handler at this level has not returned yet. -/
  | nestedTrap (level : Mode)
  /-- The run has ended. -/
  | halted
  /-- The level that takes the trap has no handler. -/
  | noHandler (level : TrapLevel)
  /-- This mode is not a level at which a handler can be installed. -/
  | invalidHandlerLevel (mode : Mode)
  /-- The result log has no room. -/
  | logFull (capacity : Word)
  /-- The length of a test table is not a multiple of the record size. -/
  | truncatedTable (length : Nat)
  /-- The label of this case names no routine. -/
  | unknownLabel (index : Nat) (label : Label)
  /-- The test table ended before the run did. -/
  | tableExhausted
  /-- A script line is wrong. -/
  | script (line : Nat) (problem : Script.Problem)
  /-- The snapshot has another format version. -/
  | snapshotVersion (expected found : String)
  /-- The snapshot logs more words than its capacity. -/
  | snapshotLogOverflow (words : Nat) (capacity : Word)
  /-- The digest of the snapshot does not fit its words. -/
  | snapshotDigest
  /-- A file cannot be opened. -/
  | unavailable
  /-- The bytes of a file are not those of a snapshot. -/
  | undecodable (cause : DecodeError)
  deriving DecidableEq

namespace BenchError

/-- The kind of the error in reports. -/
def name : BenchError → String
  | nestedTrap _ => "NestedTrap"
  | halted => "Halted"
  | noHandler _ => "NoHandler"
  | invalidHandlerLevel _ => "InvalidHandlerLevel"
  | logFull _ => "LogFull"
  | truncatedTable _ => "TruncatedTable"
  | unknownLabel .. => "UnknownLabel"
  | tableExhausted => "TableExhausted"
  | script .. => "Script"
  | snapshotVersion .. => "SnapshotVersion"
  | snapshotLogOverflow .. => "SnapshotLogOverflow"
  | snapshotDigest => "SnapshotDigest"
  | unavailable => "Io"
  | undecodable _ => "Bincode"

/-- The wording of an error. -/
def message : BenchError → String
  | nestedTrap level => "trap raised while a " ++ level.name ++ "-level handler is still running"
  | halted => "harness has halted; no further traps can be taken"
  | noHandler level => "no trap handler installed for " ++ level.name ++ " mode"
  | invalidHandlerLevel mode => mode.name ++ " mode cannot own a trap handler"
  | logFull capacity => "result log full (" ++ toString capacity.toNat ++ " words)"
  | truncatedTable length =>
    "test table length " ++ toString length ++ " is not a multiple of " ++
      toString TestCase.recordSize ++ " bytes"
  | unknownLabel index label =>
    "no test registered for label " ++ Hex.number label.toNat ++ " (case " ++ toString index ++ ")"
  | tableExhausted => "test table ended without a terminate case"
  | script line problem => "line " ++ toString line ++ ": " ++ problem.message
  | snapshotVersion expected found =>
    "snapshot version mismatch: expected " ++ expected ++ ", found " ++ found
  | snapshotLogOverflow words capacity =>
    "snapshot result log holds " ++ toString words ++ " words, capacity is " ++
      toString capacity.toNat
  | snapshotDigest => "snapshot result log digest mismatch"
  | unavailable => "file unavailable"
  | undecodable cause => cause.name

/-- Whether memory runs out before the error can be reported. -/
def exceedsMemory : BenchError → Bool
  | undecodable cause => cause.exceedsMemory
  | _ => false

/-- Whether no memory would have been large enough for the error to be reported. -/
def exceedsAddresses : BenchError → Bool
  | undecodable cause => cause.exceedsAddresses
  | _ => false

/-- The structural text of an error. -/
def inspect (e : BenchError) : String :=
  match e with
  | nestedTrap level => Inspect.tuple e.name [level.name]
  | noHandler level => Inspect.tuple e.name [level.name]
  | invalidHandlerLevel mode => Inspect.tuple e.name [mode.name]
  | logFull capacity => Inspect.record e.name [("capacity", toString capacity.toNat)]
  | truncatedTable length => Inspect.tuple e.name [toString length]
  | unknownLabel index label =>
    Inspect.record e.name [("index", toString index), ("label", toString label.toNat)]
  | script line problem =>
    Inspect.record e.name [("line", toString line), ("message", Text.quoted problem.message)]
  | snapshotVersion expected found =>
    Inspect.record e.name [("expected", Text.quoted expected), ("found", Text.quoted found)]
  | snapshotLogOverflow words capacity =>
    Inspect.record e.name [("words", toString words), ("capacity", toString capacity.toNat)]
  | undecodable cause => Inspect.tuple e.name [cause.name]
  | halted | tableExhausted | snapshotDigest | unavailable => e.name

end BenchError

end HartTraps
