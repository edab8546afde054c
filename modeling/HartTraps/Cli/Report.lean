import HartTraps.Bytes.Endian
import HartTraps.Script.Play

/-!
# Terminal reports

A report is a list of titled sections with keyed values, in colour. Short values are padded on the
right so that columns line up.
-/

namespace HartTraps.Cli

/-- The text with blanks behind it up to the given width. -/
def padded (width : Nat) (text : String) : String :=
  text ++ String.ofList (List.replicate (width - text.length) ' ')

/-- A word as 16 hexadecimal digits behind `0x`. -/
def wideHex (w : Word) : String :=
  "0x" ++ Hex.bytes (ByteOrder.big.bytes w)

/-- An empty line and a title. -/
def heading (title : String) : String :=
  "\n\x1b[1;33m── " ++ title ++ " \x1b[0m\n"

/-- A line with a key and its value. -/
def entry (key value : String) : String :=
  "    \x1b[0;90m├─\x1b[0m \x1b[0;37m" ++ padded 20 key ++ "\x1b[0m \x1b[1;97m" ++ value ++ "\x1b[0m\n"

/-- What became of a trap, for a reader. -/
def describe : Outcome → String
  | .resumed pc mode => "resumed in " ++ mode.name ++ " at " ++ wideHex pc
  | .halted .pass => "halted: pass"
  | .halted (.fail code) => "halted: fail " ++ Hex.number code.toNat
  | .halted (.fatal cause) => "halted: unexpected cause " ++ Hex.number cause.toNat

/-- A line for each reported trap. -/
def reportLines (reports : List Script.Report) : String :=
  String.join (reports.map fun r => entry ("line " ++ toString r.line) (describe r.outcome))

/-- The state in which a run left its bench. -/
def summary (b : Bench) : String :=
  heading "RESULT" ++ entry "Mode" b.hart.mode.name ++ entry "PC" (wideHex b.hart.pc) ++
    entry "State" b.phase.inspect ++ entry "Log words" (toString b.log.words.length)

end HartTraps.Cli
