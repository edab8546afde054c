import HartTraps.Settings
import HartTraps.Text.Numeral

/-!
# Command line arguments

The first operand names a verb, the second the file that it works on. Options that set up the bench
may stand before or after the verb; after it they win. An option given twice on one side of the verb
is refused, as is every word that has no meaning where it stands.
-/

namespace HartTraps.Cli

/-- What a command line asks for. -/
inductive Task where
  /-- Play a script, from a stored bench if there is one, and store what is asked for. -/
  | replay (script : String) (signature dump snapshot restore : Option String)
  /-- List the records of a test table. -/
  | cases (table : String)
  deriving DecidableEq

/-- A command line that can be carried out. -/
structure Invocation where
  settings : Settings
  task : Task
  deriving DecidableEq

/-- Why a command line is not carried out. -/
inductive Stop where
  /-- It is malformed. -/
  | usage
  /-- It asks for help or for the version. -/
  | help
  deriving DecidableEq

/-- The verbs. -/
inductive Verb where
  | replay
  | cases
  | help
  deriving DecidableEq

/-- The options that take a value. -/
inductive ValueOption where
  | logWords
  | signature
  | dump
  | snapshot
  | restore
  deriving DecidableEq

/-- The options that take none. -/
inductive Flag where
  | recordCauses
  | decodeLength
  | bigEndian
  deriving DecidableEq

/-- The verb with the given name. -/
def Verb.ofName? : String → Option Verb
  | "replay" => some replay
  | "cases" => some cases
  | "help" => some help
  | _ => none

/-- The flag with the given name. -/
def Flag.ofName? : String → Option Flag
  | "record-causes" => some recordCauses
  | "decode-length" => some decodeLength
  | "big-endian" => some bigEndian
  | _ => none

/-- The option with the given name that takes a value after the given verb; the log size is
understood everywhere, output files only when a script is replayed. -/
def ValueOption.ofName? (verb : Option Verb) (name : String) : Option ValueOption :=
  match name, verb with
  | "log-words", _ => some logWords
  | "signature", some .replay => some signature
  | "dump", some .replay => some dump
  | "snapshot", some .replay => some snapshot
  | "restore", some .replay => some restore
  | _, _ => none

/-- The words read so far. -/
structure Scan where
  verb : Option Verb := none
  /-- The operand after the verb. -/
  operand : Option String := none
  /-- The flags, each with whether it stood after the verb. -/
  flags : List (Flag × Bool) := []
  /-- The values, each with its option and whether it stood after the verb. -/
  values : List ((ValueOption × Bool) × String) := []
  /-- The option whose value is the next word. -/
  awaiting : Option ValueOption := none
  /-- Whether all further words are operands. -/
  operandsOnly : Bool := false

namespace Scan

/-- Whether the verb has been read. -/
def afterVerb (s : Scan) : Bool := s.verb.isSome

/-- The number of words of a log size. -/
def logWords? (text : String) : Option Word :=
  (Numeral.value? 10 (Endian.span 8) text.toList).map (BitVec.ofNat 64)

/-- Gives an option its value. -/
def give (s : Scan) (option : ValueOption) (value : String) : Except Stop Scan :=
  let key := (option, s.afterVerb)
  let isValid := if option = .logWords then (logWords? value).isSome else value ≠ ""
  if s.values.any (·.1 = key) || !isValid then .error .usage
  else .ok { s with values := (key, value) :: s.values, awaiting := none }

/-- Reads a word that is no option. -/
def readOperand (s : Scan) (word : String) : Except Stop Scan :=
  if s.afterVerb then
    if s.operand.isSome || word = "" then .error .usage else .ok { s with operand := some word }
  else
    match Verb.ofName? word with
    | some verb => if s.operandsOnly then .error .usage else .ok { s with verb := some verb }
    | none => .error .usage

/-- Reads a word after the verb `help`: it names the verb that help is about, and options have no
meaning there. -/
def readTopic (s : Scan) (word : String) : Except Stop Scan :=
  if s.operand.isSome || (Verb.ofName? word).isNone then .error .usage
  else .ok { s with operand := some word }

/-- Reads an option by its long name, with the value that was attached to it. -/
def readOption (s : Scan) (name : String) (attached : Option String) : Except Stop Scan :=
  match Flag.ofName? name, ValueOption.ofName? s.verb name, attached with
  | some flag, _, none =>
    if s.flags.contains (flag, s.afterVerb) then .error .usage
    else .ok { s with flags := (flag, s.afterVerb) :: s.flags }
  | none, some option, some value => s.give option value
  | none, some option, none => .ok { s with awaiting := some option }
  | none, none, none =>
    if name = "help" || (name = "version" && !s.afterVerb) then .error .help else .error .usage
  | _, _, some _ => .error .usage

/-- Reads one word of a command line whose verb is not `help`. -/
def readWord (s : Scan) (word : String) : Except Stop Scan :=
  match s.awaiting, s.operandsOnly, word.toList with
  | some option, _, cs =>
    if cs = ['-'] || cs.head? ≠ some '-' then s.give option word else .error .usage
  | none, true, _ => s.readOperand word
  | none, false, ['-', '-'] => .ok { s with operandsOnly := true }
  | none, false, '-' :: '-' :: cs =>
    let name := cs.takeWhile (· ≠ '=')
    let value := (cs.dropWhile (· ≠ '=')).tail?
    s.readOption (String.ofList name) (value.map String.ofList)
  | none, false, '-' :: c :: _ =>
    if c = 'h' || (c = 'V' && !s.afterVerb) then .error .help else .error .usage
  | none, false, _ => s.readOperand word

/-- Reads one word. -/
def read (s : Scan) (word : String) : Except Stop Scan :=
  if s.verb = some .help then s.readTopic word else s.readWord word

/-- The value of an option; one after the verb wins over one before it. -/
def value? (s : Scan) (option : ValueOption) : Option String :=
  (s.values.lookup (option, true)).or (s.values.lookup (option, false))

/-- Whether a flag is set on either side of the verb. -/
def isSet (s : Scan) (flag : Flag) : Bool :=
  s.flags.any (·.1 = flag)

/-- The settings that the options ask for. -/
def settings (s : Scan) : Settings :=
  let standard : Settings := {}
  { standard with
    stepRule := if s.isSet .decodeLength then .decoded else .fixed
    recordCauses := s.isSet .recordCauses
    byteOrder := if s.isSet .bigEndian then .big else .little
    logCapacity := ((s.value? .logWords).bind logWords?).getD standard.logCapacity }

/-- What the words ask for once all are read. -/
def invocation (s : Scan) : Except Stop Invocation :=
  match s.awaiting, s.verb, s.operand with
  | none, some .replay, some script =>
    .ok
      { settings := s.settings
        task := .replay script (s.value? .signature) (s.value? .dump) (s.value? .snapshot)
          (s.value? .restore) }
  | none, some .cases, some table => .ok { settings := s.settings, task := .cases table }
  | none, some .help, _ => .error .help
  | _, _, _ => .error .usage

end Scan

/-- What a command line asks for. -/
def Invocation.ofArguments (arguments : List String) : Except Stop Invocation := do
  (← arguments.foldlM Scan.read {}).invocation

end HartTraps.Cli
