import HartTraps.Script.Command
import HartTraps.Script.Problem
import HartTraps.Text.Blank
import HartTraps.Text.Numeral

/-!
# Reading scripts

A line holds words between blanks; `#` starts a comment, and a line without words holds no command.
The first word names the command and the others are its operands. Of several problems in a line the
first in reading order counts, except that a trap's instruction is read before its other operands.
-/

namespace HartTraps.Script

/-- A word of a line. -/
abbrev Token := List Char

/-- A number operand. -/
def number (word : Token) : Except Problem Word :=
  match Numeral.word? word with
  | some w => .ok w
  | none => .error (.invalidNumber (String.ofList word))

/-- A mode operand: the initial of the mode. -/
def modeOf (word : Token) : Except Problem Mode :=
  match Mode.ofLetter? word with
  | some mode => .ok mode
  | none => .error (.invalidMode (String.ofList word))

/-- The index of a register: by its role, or `x` and a decimal index below 32. -/
def registerIndex? (word : Token) : Option Nat :=
  if word = ['r', 'a'] then some 1
  else if word = ['t', '0'] then some 5
  else if word = ['a', '0'] then some 10
  else if word = ['a', '1'] then some 11
  else if word = ['a', '2'] then some 12
  else
    match word with
    | 'x' :: index => Numeral.value? 10 32 index
    | _ => none

/-- A register operand. -/
def registerOf (word : Token) : Except Problem Register :=
  match registerIndex? word with
  | some index => .ok (BitVec.ofNat 5 index)
  | none => .error (.invalidRegister (String.ofList word))

/-- A vector mode operand; without one the mode is direct. -/
def vectoringOf : Option Token → Except Problem Vectoring
  | none => .ok .direct
  | some word =>
    if word = "direct".toList then .ok .direct
    else if word = "vectored".toList then .ok .vectored
    else .error (.unknownVectoring (String.ofList word))

/-- An instruction operand, a number of at most 32 bits. -/
def instructionOf (word : Token) : Except Problem (BitVec 32) := do
  let w ← number word
  if w.toNat < Endian.span 4 then return w.setWidth 32
  else throw (.wideInstruction (String.ofList word))

/-- An operand that may be missing. -/
def optional {α : Type} (read : Token → Except Problem α) : Option Token → Except Problem (Option α)
  | none => .ok none
  | some word => some <$> read word

/-- A number operand that is 0 if missing. -/
def numberOrZero (word : Option Token) : Except Problem Word := do
  return (← optional number word).getD 0

/-- The command with the given name and operands. -/
def command (name : Token) (operands : List Token) : Except Problem Command :=
  let wrongArity (least most : Nat) : Except Problem Command :=
    .error (.wrongArity (String.ofList name) least most operands.length)
  match String.ofList name with
  | "install" =>
    match operands with
    | level :: base :: rest =>
      if 1 < rest.length then wrongArity 2 3
      else do
        let level ← modeOf level
        let base ← number base
        return .install level base (← vectoringOf rest.head?)
    | _ => wrongArity 2 3
  | "delegate" =>
    match operands with
    | [exceptions, interrupts] => do
      let exceptions ← number exceptions
      return .delegate exceptions (← number interrupts)
    | _ => wrongArity 2 2
  | "mode" =>
    match operands with
    | [mode] => return .mode (← modeOf mode)
    | _ => wrongArity 1 1
  | "pc" =>
    match operands with
    | [pc] => return .pc (← number pc)
    | _ => wrongArity 1 1
  | "reg" =>
    match operands with
    | [r, w] => do
      let r ← registerOf r
      return .register r (← number w)
    | _ => wrongArity 2 2
  | "log" =>
    match operands with
    | [w] => return .log (← number w)
    | _ => wrongArity 1 1
  | "trap" =>
    match operands with
    | cause :: rest =>
      if 2 < rest.length then wrongArity 1 3
      else do
        let instruction ← optional instructionOf rest[1]?
        let cause ← number cause
        return .trap cause (← optional number rest[0]?) instruction
    | _ => wrongArity 1 3
  | "ecall" =>
    match operands with
    | op :: rest =>
      if 2 < rest.length then wrongArity 1 3
      else do
        let op ← number op
        let page ← numberOrZero rest[0]?
        return .call op page (← numberOrZero rest[1]?)
    | _ => wrongArity 1 3
  | "terminate" =>
    match operands with
    | [] => .ok .terminate
    | _ => wrongArity 0 0
  | _ => .error (.unknownCommand (String.ofList name))

/-- The command of a line, if it has one. -/
def commandOfLine (text : List Char) : Except Problem (Option Command) :=
  match Text.words (text.takeWhile (· ≠ '#')) with
  | [] => .ok none
  | name :: operands => some <$> command name operands

/-- Why a text is not a script: the number of the first bad line and its problem. -/
structure Fault where
  line : Nat
  problem : Problem
  deriving DecidableEq

/-- The commands of consecutive lines, the first of which has the given number. -/
def ofLines : Nat → List (List Char) → Except Fault (List Line)
  | _, [] => .ok []
  | number, text :: rest =>
    match commandOfLine text with
    | .error problem => .error { line := number, problem }
    | .ok found => do
      let lines ← ofLines (number + 1) rest
      match found with
      | none => return lines
      | some command => return { number, command } :: lines

/-- The script in a text. -/
def parse (text : List Char) : Except Fault (List Line) :=
  ofLines 1 (Text.lines text)

end HartTraps.Script
