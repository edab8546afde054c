import HartTraps.Cli.Command

/-!
# The command line

The surroundings of a command are those of the process.
-/

namespace HartTraps.Cli

/-- The bytes of a file, read in pieces of one mebibyte. A file of a gibibyte counts as endless. -/
def readAll (handle : IO.FS.Handle) : IO (Except ReadFailure (List UInt8)) := do
  let mut bytes := ByteArray.empty
  for _ in [0:1024] do
    let piece ← handle.read 1048576
    if piece.isEmpty then return .ok bytes.data.toList
    bytes := bytes ++ piece
  return .error .endless

/-- The host of the process. Each text is printed at once, so that it keeps its place among the bytes
that are written to standard output as a file. -/
def processHost : Host IO where
  read path := do
    match ← (IO.FS.Handle.mk path .read).toBaseIO with
    | .error _ => return .error .missing
    | .ok handle =>
      match ← (readAll handle).toBaseIO with
      | .ok result => return result
      | .error _ => return .error .unreadable
  write path bytes := do
    match ← (IO.FS.Handle.mk path .write).toBaseIO with
    | .error _ => return .error .refused
    | .ok handle =>
      match ← (do handle.write ⟨bytes.toArray⟩; handle.flush : IO Unit).toBaseIO with
      | .ok () => return .ok ()
      | .error _ => return .error .full
  print text := do
    let output ← IO.getStdout
    output.putStr text
    output.flush
  complain text := do
    let errors ← IO.getStderr
    errors.putStr text
    errors.flush

end HartTraps.Cli

open HartTraps in
/-- Carries out the command line of the process. A command that the host would stop exits with 134. -/
def main (arguments : List String) : IO UInt32 := do
  match ← Cli.run Cli.processHost arguments with
  | .exited status => return status.toUInt32
  | .stopped => return 134
