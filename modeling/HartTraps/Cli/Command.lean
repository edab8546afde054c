import HartTraps.Cli.Arguments
import HartTraps.Cli.Report
import HartTraps.Cli.Terminal
import HartTraps.Snapshot.File
import HartTraps.TestTable.Labels
import HartTraps.TestTable.Table

/-!
# Commands

`Cli.run` carries out a command line on a host. What it prints and writes before an error stays
printed and written; how the program ends is its result.
-/

namespace HartTraps.Cli

/-- How a program ends. -/
inductive Ending where
  /-- It exits with a status. -/
  | exited (status : Nat)
  /-- The host stops it for want of memory, which leaves no status. -/
  | stopped
  deriving DecidableEq

/-- Why a command stopped. -/
inductive Failure where
  /-- A script, a table or an output file cannot be reached. -/
  | inaccessible
  /-- The script is not text. -/
  | notText
  /-- A script or a table has no end. -/
  | endless
  /-- The snapshot file has no room. -/
  | full
  /-- The bench refuses. -/
  | bench (e : BenchError)
  deriving DecidableEq

namespace Failure

/-- The structural text of a failure. -/
def inspect : Failure → String
  | inaccessible => "Os"
  | notText => "Error"
  | endless => "OutOfMemory"
  | full => Inspect.tuple "Bincode" ["Io"]
  | bench e => e.inspect

/-- How a program ends that a failure stopped. -/
def ending : Failure → Ending
  | endless => .stopped
  | bench e =>
    if e.exceedsAddresses then .exited 101
    else if e.exceedsMemory then .stopped
    else .exited 1
  | _ => .exited 1

/-- The line on standard error. A program that runs out of memory cannot say at what. -/
def notice (f : Failure) : String :=
  if f.ending = .exited 1 then "Error: " ++ f.inspect ++ "\n" else "out of memory\n"

end Failure

/-- A command in the monad `m` that may stop. -/
abbrev Attempt (m : Type → Type) := ExceptT Failure m

section Commands

variable {m : Type → Type} [Monad m]

/-- Stops on an error of the bench. -/
def accept {α : Type} : Except BenchError α → Attempt m α
  | .ok a => return a
  | .error e => throw (.bench e)

/-- The bytes of an input file. -/
def readInput (host : Host m) (path : String) : Attempt m (List UInt8) := do
  match ← (host.read path : m _) with
  | .ok bytes => return bytes
  | .error .endless => throw .endless
  | .error _ => throw .inaccessible

/-- The text of an input file. -/
def readText (host : Host m) (path : String) : Attempt m String := do
  match String.fromUTF8? ⟨(← readInput host path).toArray⟩ with
  | some text => return text
  | none => throw .notText

/-- The bench stored in a file. An endless file is read as far as a snapshot needs it: one that is
all zeros, and so without texts and lists, is shorter than 1024 bytes. -/
def readBench (host : Host m) (path : String) : Attempt m Bench := do
  match ← (host.read path : m _) with
  | .ok bytes => accept (Bench.load bytes)
  | .error .missing => throw (.bench .unavailable)
  | .error .unreadable => accept (Bench.load [])
  | .error .endless => accept (Bench.load (List.replicate 1024 0))

/-- Writes an output file, if it is asked for, and prints its name; if it cannot, stops with the
failure that the reason calls for. -/
def writeOutput (host : Host m) (key : String) (path : Option String) (bytes : List UInt8)
    (failure : WriteFailure → Failure) : Attempt m Unit := do
  match path with
  | none => return
  | some path =>
    match ← (host.write path bytes : m _) with
    | .ok () => host.print (entry key path)
    | .error reason => throw (failure reason)

/-- The failure of a command that cannot write a snapshot file. -/
def snapshotFailure : WriteFailure → Failure
  | .refused => .bench .unavailable
  | .full => .full

/-- Plays a script and reports on it. The result is the verdict of the run, if it has ended. -/
def replay (host : Host m) (settings : Settings) (script : String)
    (signature dump snapshot restore : Option String) : Attempt m (Option Verdict) := do
  let text ← readText host script
  let lines ← accept ((Script.parse text.toList).mapError Script.Fault.error)
  let bench ←
    match restore with
    | none => pure (Bench.start settings)
    | some path => readBench host path
  host.print (heading "REPLAY" ++ entry "Commands" (toString lines.length))
  let played := Script.play lines bench
  let reports ← accept played.result
  let bench := played.state
  host.print (reportLines reports ++ summary bench)
  writeOutput host "Signature" signature bench.log.signature.toUTF8.data.toList
    fun _ => .inaccessible
  writeOutput host "Log dump" dump (bench.log.bytes bench.settings.byteOrder)
    fun _ => .inaccessible
  writeOutput host "Snapshot" snapshot bench.save snapshotFailure
  return bench.verdict?

/-- The line of one record in a listing. -/
def recordLine (index : Nat) (case : TestCase) : String :=
  let routine :=
    match Labels.standard.find? case.tag with
    | some routine => routine.name
    | none => "<label " ++ Hex.number case.label.toNat ++ ">"
  entry ("#" ++ toString index)
    (padded 18 routine ++ " address=" ++ wideHex case.address ++ " value=" ++
      Hex.number case.value.toNat)

/-- Lists the records of a test table. -/
def listCases (host : Host m) (settings : Settings) (table : String) : Attempt m Unit := do
  let bytes ← readInput host table
  let cases ← accept (TestTable.decode settings.byteOrder bytes)
  host.print (heading "TEST CASES" ++
    String.join (cases.zipIdx.map fun (case, index) => recordLine index case))

/-- Carries out an invocation; the result is the exit status. A run that did not pass exits with 1. -/
def perform (host : Host m) (invocation : Invocation) : Attempt m Nat := do
  match invocation.task with
  | .replay script signature dump snapshot restore =>
    match ← replay host invocation.settings script signature dump snapshot restore with
    | some verdict => return if verdict.isPass then 0 else 1
    | none => return 0
  | .cases table =>
    listCases host invocation.settings table
    return 0

/-- The forms of a command line. -/
def usage : String :=
  "Usage: hart-traps [OPTIONS] replay SCRIPT [--signature FILE] [--dump FILE] [--snapshot FILE] " ++
    "[--restore FILE]\n       hart-traps [OPTIONS] cases TABLE\n" ++
    "Options: --record-causes --decode-length --big-endian --log-words N\n"

/-- Carries out a command line on a host. -/
def run (host : Host m) (arguments : List String) : m Ending := do
  match Invocation.ofArguments arguments with
  | .error .usage =>
    host.complain usage
    return .exited 2
  | .error .help =>
    host.print usage
    return .exited 0
  | .ok invocation =>
    match ← (perform host invocation).run with
    | .ok status => return .exited status
    | .error failure =>
      host.complain failure.notice
      return failure.ending

end Commands

end HartTraps.Cli
