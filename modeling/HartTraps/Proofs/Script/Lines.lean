import HartTraps.Proofs.Text.Words
import HartTraps.Script.Parser

/-!
# Lines and their numbers

A text is read line by line, where the lines are the pieces between line feeds: whether the last line
ends with a line feed, and whether lines end with carriage returns, does not matter. So two texts that are
joined by a line feed are read one after the other, and the lines of the second one have the numbers that
follow those of the first (`parse_append_cons`). The numbers of the commands increase.
-/

namespace HartTraps.Script

/-- A command on a line further down. -/
def Line.down (line : Line) (n : Nat) : Line :=
  { line with number := line.number + n }

/-- The same problem on a line further down. -/
def Fault.down (fault : Fault) (n : Nat) : Fault :=
  { fault with line := fault.line + n }

/-- What is read from lines that stand further down. -/
def below (n : Nat) (read : Except Fault (List Line)) : Except Fault (List Line) :=
  match read with
  | .error fault => .error (fault.down n)
  | .ok lines => .ok (lines.map (·.down n))

/-- What is read from two parts of a text, of which a problem in the first one counts first. -/
def joined : Except Fault (List Line) → Except Fault (List Line) → Except Fault (List Line)
  | .error fault, _ => .error fault
  | .ok _, .error fault => .error fault
  | .ok lines, .ok more => .ok (lines ++ more)

/-- A line with its command, or none, comes before the commands of the other lines. -/
theorem ofLines_cons {text : List Char} {found : Option Command}
    (line : commandOfLine text = .ok found) (first : Nat) (texts : List (List Char)) :
    ofLines first (text :: texts) =
      (ofLines (first + 1) texts).map
        ((found.map ({ number := first, command := · })).toList ++ ·) := by
  rw [ofLines, line]
  cases found <;> cases ofLines (first + 1) texts <;> rfl

/-- A problem in a line is the problem of the text. -/
theorem ofLines_cons_of_error {text : List Char} {problem : Problem}
    (line : commandOfLine text = .error problem) (first : Nat) (texts : List (List Char)) :
    ofLines first (text :: texts) = .error { line := first, problem } := by
  rw [ofLines, line]

/-- What is read from some lines is the command of the first, or none, and then what is read from the others. -/
theorem ofLines_cons_eq_ok {text : List Char} {texts : List (List Char)} {first : Nat} {lines : List Line}
    (done : ofLines first (text :: texts) = .ok lines) :
    ∃ found later, commandOfLine text = .ok found ∧ ofLines (first + 1) texts = .ok later ∧
      lines = (found.map ({ number := first, command := · })).toList ++ later := by
  cases line : commandOfLine text with
  | error problem =>
    rw [ofLines_cons_of_error line] at done
    cases done
  | ok found =>
    rw [ofLines_cons line] at done
    cases rest : ofLines (first + 1) texts with
    | error fault =>
      rw [rest] at done
      cases done
    | ok later =>
      rw [rest] at done
      cases done
      exact ⟨found, later, rfl, rfl, rfl⟩

/-- The numbers of lines increase. -/
theorem numbers_of_ofLines {texts : List (List Char)} {first : Nat} {lines : List Line}
    (done : ofLines first texts = .ok lines) :
    (∀ line ∈ lines, first ≤ line.number) ∧ lines.Pairwise (·.number < ·.number) := by
  induction texts generalizing first lines with
  | nil =>
    cases done
    exact ⟨fun line member => absurd member List.not_mem_nil, .nil⟩
  | cons text texts ih =>
    obtain ⟨found, later, -, rest, rfl⟩ := ofLines_cons_eq_ok done
    obtain ⟨least, increasing⟩ := ih rest
    cases found with
    | none => exact ⟨fun line member => Nat.le_of_succ_le (least line member), increasing⟩
    | some c =>
      refine ⟨fun line member => ?_, List.pairwise_cons.mpr ⟨least, increasing⟩⟩
      rcases List.mem_cons.mp member with rfl | after
      · exact Nat.le_refl _
      · exact Nat.le_of_succ_le (least line after)

/-- Lines are read one after the other. -/
theorem ofLines_append (first : Nat) (texts more : List (List Char)) :
    ofLines first (texts ++ more) =
      joined (ofLines first texts) (ofLines (first + texts.length) more) := by
  induction texts generalizing first with
  | nil =>
    rw [List.nil_append, List.length_nil, Nat.add_zero]
    cases ofLines first more <;> rfl
  | cons text texts ih =>
    have next : first + (text :: texts).length = first + 1 + texts.length := by
      rw [List.length_cons]
      omega
    rw [List.cons_append, next]
    cases line : commandOfLine text with
    | error problem =>
      rw [ofLines_cons_of_error line, ofLines_cons_of_error line]
      rfl
    | ok found =>
      rw [ofLines_cons line, ofLines_cons line, ih]
      cases ofLines (first + 1) texts with
      | error fault => rfl
      | ok lines =>
        cases ofLines (first + 1 + texts.length) more with
        | error fault => rfl
        | ok later => exact congrArg Except.ok (List.append_assoc _ _ _).symm

/-- Where lines stand matters for their numbers only. -/
theorem ofLines_add (first n : Nat) (texts : List (List Char)) :
    ofLines (first + n) texts = below n (ofLines first texts) := by
  induction texts generalizing first with
  | nil => rfl
  | cons text texts ih =>
    have next : first + n + 1 = first + 1 + n := by omega
    cases line : commandOfLine text with
    | error problem =>
      rw [ofLines_cons_of_error line, ofLines_cons_of_error line]
      rfl
    | ok found =>
      rw [ofLines_cons line, ofLines_cons line, next, ih]
      cases ofLines (first + 1) texts with
      | error fault => rfl
      | ok lines => cases found <;> rfl

/-- A carriage return at the end of a line does not matter. -/
theorem commandOfLine_dropReturn (text : List Char) :
    commandOfLine (Text.dropReturn text) = commandOfLine text := by
  unfold commandOfLine
  rw [Text.words_takeWhile_dropReturn]

/-- Carriage returns at the ends of lines do not matter. -/
theorem ofLines_map_dropReturn (first : Nat) (texts : List (List Char)) :
    ofLines first (texts.map Text.dropReturn) = ofLines first texts := by
  induction texts generalizing first with
  | nil => rfl
  | cons text texts ih =>
    rw [List.map_cons, ofLines, ofLines, commandOfLine_dropReturn, ih]

/-- A text is read as its pieces between line feeds. -/
theorem parse_eq (text : List Char) : parse text = ofLines 1 (Text.pieces (· == '\n') text) := by
  unfold parse Text.lines
  rcases List.eq_nil_or_concat (Text.pieces (· == '\n') text) with none | ⟨whole, last, parts⟩
  · exact absurd none (Text.pieces_ne_nil _ text)
  · rw [parts, List.concat_eq_append]
    simp only [List.dropLast_concat, List.getLast?_concat, Option.getD_some]
    rw [ofLines_append, ofLines_append, ofLines_map_dropReturn, List.length_map]
    -- An empty last piece is no line, but neither would it hold a command.
    cases last <;> rfl

/-- Two texts joined by a line feed are read one after the other. A problem in the first text is the problem
of the whole; the commands of the second text, or its problem, stand as many lines further down as the first
text has line feeds, and one. -/
theorem parse_append_cons (text more : List Char) :
    parse (text ++ '\n' :: more) =
      match parse text, parse more with
      | .error fault, _ => .error fault
      | .ok _, .error fault => .error (fault.down (text.count '\n' + 1))
      | .ok lines, .ok later => .ok (lines ++ later.map (·.down (text.count '\n' + 1))) := by
  have feeds : (Text.pieces (· == '\n') text).length = text.count '\n' + 1 := Text.length_pieces _ text
  have parts : Text.pieces (· == '\n') (text ++ '\n' :: more) =
      Text.pieces (· == '\n') text ++ Text.pieces (· == '\n') more :=
    Text.pieces_append_cons rfl text more
  rw [parse_eq, parts, ofLines_append, feeds, ofLines_add, ← parse_eq, ← parse_eq]
  cases parse text with
  | error fault => rfl
  | ok lines => cases parse more <;> rfl

/-- Three lines with two commands. -/
def opening : List Char :=
  "# where to start\r\npc\u30000x10\nlog 7".toList

/-- Three lines with two commands, of which the first line is empty. -/
def closing : List Char :=
  "\nmode\u00a0s\r\n terminate".toList

/-- Two lines, of which the second does not name a command. -/
def misspelt : List Char :=
  "log 9\nhalt".toList

/-- The commands of the closing stand three lines further down behind the opening, and so does the problem of
the misspelt lines, which is on their second line; in front of the opening it stays where it is. -/
theorem parse_append_cons_opening :
    parse (opening ++ '\n' :: closing) =
        .ok [⟨2, .pc 0x10⟩, ⟨3, .log 7⟩, ⟨5, .mode .supervisor⟩, ⟨6, .terminate⟩] ∧
      parse (opening ++ '\n' :: misspelt) = .error ⟨5, .unknownCommand "halt"⟩ ∧
      parse (misspelt ++ '\n' :: opening) = .error ⟨2, .unknownCommand "halt"⟩ := by
  have first : parse opening = .ok [⟨2, .pc 0x10⟩, ⟨3, .log 7⟩] := by rfl
  have last : parse closing = .ok [⟨2, .mode .supervisor⟩, ⟨3, .terminate⟩] := by rfl
  have wrong : parse misspelt = .error ⟨2, .unknownCommand "halt"⟩ := by rfl
  have feeds : opening.count '\n' = 2 := by rfl
  refine ⟨?_, ?_, ?_⟩
  · rw [parse_append_cons, first, last, feeds]
    rfl
  · rw [parse_append_cons, first, wrong, feeds]
    rfl
  · rw [parse_append_cons, wrong]

end HartTraps.Script
