import HartTraps.Proofs.Script.Lines
import HartTraps.Proofs.Script.Operands

/-!
# Scripts as they are written

`Command.Spelled` says with which words a command is written, and `Row.Written` how a line of a script
shows a command or none: words stand apart between blanks, and a comment may follow. `parse_written`
says that such lines are read as the commands that they show. Only a trap with an instruction but
without an address cannot be written, and no text is read as one.
-/

namespace HartTraps

/-- The letter with which a mode is written, in either case. -/
inductive Mode.Letter : Mode → List Char → Prop where
  | machine {c : Char} (letter : c = 'm' ∨ c = 'M') : Letter .machine [c]
  | supervisor {c : Char} (letter : c = 's' ∨ c = 'S') : Letter .supervisor [c]
  | user {c : Char} (letter : c = 'u' ∨ c = 'U') : Letter .user [c]

/-- The word with which a vector mode is written. -/
def Vectoring.word : Vectoring → List Char
  | direct => "direct".toList
  | vectored => "vectored".toList

namespace Script

open Numeral (Spells Digits)

/-- The words with which a command is written. -/
inductive Command.Spelled : Command → List Token → Prop where
  | install {level : Mode} {w : Word} {letter base : Token} (vectoring : Vectoring)
      (mode : level.Letter letter) (number : Spells w.toNat base) :
      Spelled (.install level w vectoring) ["install".toList, letter, base, vectoring.word]
  | delegate {x y : Word} {exceptions interrupts : Token} (first : Spells x.toNat exceptions)
      (second : Spells y.toNat interrupts) :
      Spelled (.delegate x y) ["delegate".toList, exceptions, interrupts]
  | mode {m : Mode} {letter : Token} (mode : m.Letter letter) :
      Spelled (.mode m) ["mode".toList, letter]
  | pc {w : Word} {word : Token} (number : Spells w.toNat word) : Spelled (.pc w) ["pc".toList, word]
  | register {r : Register} {w : Word} {index word : Token} (digits : Digits 10 index r.toNat)
      (number : Spells w.toNat word) :
      Spelled (.register r w) ["reg".toList, 'x' :: index, word]
  | trap {c : Word} {cause : Token} (first : Spells c.toNat cause) :
      Spelled (.trap c none none) ["trap".toList, cause]
  | trapAt {c a : Word} {cause address : Token} (first : Spells c.toNat cause)
      (second : Spells a.toNat address) :
      Spelled (.trap c (some a) none) ["trap".toList, cause, address]
  | trapBy {c a : Word} {i : BitVec 32} {cause address instruction : Token}
      (first : Spells c.toNat cause) (second : Spells a.toNat address)
      (third : Spells i.toNat instruction) :
      Spelled (.trap c (some a) (some i)) ["trap".toList, cause, address, instruction]
  | call {o p t : Word} {op page pageType : Token} (first : Spells o.toNat op)
      (second : Spells p.toNat page) (third : Spells t.toNat pageType) :
      Spelled (.call o p t) ["ecall".toList, op, page, pageType]
  | log {w : Word} {word : Token} (number : Spells w.toNat word) : Spelled (.log w) ["log".toList, word]
  | terminate : Spelled .terminate ["terminate".toList]

/-- A trap with an instruction has an address. -/
def Command.Complete : Command → Prop
  | .trap _ address instruction => instruction ≠ none → address ≠ none
  | _ => True

/-- A run of blanks within a line. -/
def Blanks (gap : List Char) : Prop :=
  ∀ c ∈ gap, Text.isBlank c = true ∧ c ≠ '\n'

instance (gap : List Char) : Decidable (Blanks gap) :=
  List.decidableBAll _ gap

/-- Nothing, or a comment to the end of the line. -/
inductive Comment : List Char → Prop where
  | none : Comment []
  | some {text : List Char} (inside : '\n' ∉ text) : Comment ('#' :: text)

/-- Words in a text with blanks between them. -/
inductive Spaced : List Token → List Char → Prop where
  | last (word : Token) : Spaced [word] word
  | next {word : Token} {words : List Token} {gap text : List Char} (blanks : Blanks gap)
      (apart : gap ≠ []) (rest : Spaced words text) : Spaced (word :: words) (word ++ gap ++ text)

/-- A line of a script's text and the command on it, if it has one. -/
structure Row where
  command : Option Command
  text : List Char

/-- The line is written so as to show its command, or none. -/
inductive Row.Written : Row → Prop where
  | command {c : Command} {words : List Token} {content lead trail comment : List Char}
      (spelled : c.Spelled words) (spaced : Spaced words content) (before : Blanks lead)
      (after : Blanks trail) (noted : Comment comment) :
      Written ⟨some c, lead ++ content ++ trail ++ comment⟩
  | empty {lead comment : List Char} (before : Blanks lead) (noted : Comment comment) :
      Written ⟨none, lead ++ comment⟩

/-- The text of some lines, with a line feed between them; it ends with a line feed if the last line is
empty. -/
def sheet (rows : List Row) : List Char :=
  ['\n'].intercalate (rows.map Row.text)

/-- The commands on some lines, the first of which has the given number. -/
def numbered (first : Nat) (rows : List Row) : List Line :=
  (rows.zipIdx first).filterMap fun (row, number) => row.command.map ({ number, command := · })

/-! ## Words -/

/-- A word of a line: not empty, without blanks, and before any comment. -/
def Plain (word : Token) : Prop :=
  word ≠ [] ∧ ∀ c ∈ word, Text.isBlank c = false ∧ c ≠ '#'

instance (word : Token) : Decidable (Plain word) :=
  have : Decidable (∀ c ∈ word, Text.isBlank c = false ∧ c ≠ '#') := List.decidableBAll _ word
  inferInstanceAs (Decidable (_ ∧ _))

theorem plain_of_spells {n : Nat} {word : Token} (spells : Spells n word) : Plain word :=
  ⟨spells.ne_nil, spells.plain⟩

theorem plain_of_letter {m : Mode} {word : Token} (letter : m.Letter word) : Plain word := by
  cases letter with
  | machine letter | supervisor letter | user letter => rcases letter with rfl | rfl <;> decide

theorem plain_of_index {n : Nat} {index : Token} (digits : Digits 10 index n) :
    Plain ('x' :: index) := by
  refine ⟨List.cons_ne_nil _ _, fun c member => ?_⟩
  rcases List.mem_cons.mp member with rfl | member
  · decide
  · obtain ⟨d, digit⟩ := digits.isDigit c member
    obtain ⟨blank, marks⟩ := digit.ne_mark (by decide)
    exact ⟨blank, fun same => marks (same ▸ List.mem_cons_self)⟩

/-- The words of a command are words of a line. -/
theorem Command.Spelled.plain {c : Command} {words : List Token} (spelled : c.Spelled words) :
    ∀ word ∈ words, Plain word := by
  have vectoring (v : Vectoring) : Plain v.word := by cases v <;> decide
  cases spelled <;>
    simp only [List.forall_mem_cons, List.not_mem_nil, false_implies, implies_true, and_true]
  case install v mode number =>
    exact ⟨by decide, plain_of_letter mode, plain_of_spells number, vectoring v⟩
  case delegate first second => exact ⟨by decide, plain_of_spells first, plain_of_spells second⟩
  case mode mode => exact ⟨by decide, plain_of_letter mode⟩
  case pc number => exact ⟨by decide, plain_of_spells number⟩
  case register digits number => exact ⟨by decide, plain_of_index digits, plain_of_spells number⟩
  case trap first => exact ⟨by decide, plain_of_spells first⟩
  case trapAt first second => exact ⟨by decide, plain_of_spells first, plain_of_spells second⟩
  case trapBy first second third =>
    exact ⟨by decide, plain_of_spells first, plain_of_spells second, plain_of_spells third⟩
  case call first second third =>
    exact ⟨by decide, plain_of_spells first, plain_of_spells second, plain_of_spells third⟩
  case log number => exact ⟨by decide, plain_of_spells number⟩
  case terminate => decide

/-! ## Operands -/

theorem number_of_spells {w : Word} {word : Token} (spells : Spells w.toNat word) :
    number word = .ok w :=
  number_eq_ok_iff.mpr spells.denotes

theorem modeOf_of_letter {m : Mode} {word : Token} (letter : m.Letter word) :
    modeOf word = .ok m := by
  cases letter with
  | machine letter | supervisor letter | user letter => rcases letter with rfl | rfl <;> rfl

theorem vectoringOf_word (v : Vectoring) : vectoringOf (some v.word) = .ok v := by
  cases v <;> rfl

theorem numberOrZero_of_spells {w : Word} {word : Token} (spells : Spells w.toNat word) :
    numberOrZero (some word) = .ok w := by
  show (do return (← some <$> number word).getD 0) = _
  rw [number_of_spells spells]
  rfl

theorem registerOf_of_digits {r : Register} {index : Token} (digits : Digits 10 index r.toNat) :
    registerOf ('x' :: index) = .ok r :=
  registerOf_eq_ok_iff.mpr (.index (.bare digits))

theorem instructionOf_of_spells {i : BitVec 32} {word : Token} (spells : Spells i.toNat word) :
    instructionOf word = .ok i :=
  instructionOf_eq_ok_iff.mpr spells.denotes

/-- The words of a command are read as this command. -/
theorem command_of_spelled {c : Command} {name : Token} {operands : List Token}
    (spelled : c.Spelled (name :: operands)) : command name operands = .ok c := by
  cases spelled with
  | @install level w letter base v mode number =>
    show (do
      let level ← modeOf letter
      let base ← Script.number base
      return Command.install level base (← vectoringOf (some v.word))) = _
    rw [modeOf_of_letter mode, number_of_spells number, vectoringOf_word v]
    rfl
  | @delegate x y exceptions interrupts first second =>
    show (do
      let exceptions ← number exceptions
      return Command.delegate exceptions (← number interrupts)) = _
    rw [number_of_spells first, number_of_spells second]
    rfl
  | @mode m letter mode =>
    show (do return Command.mode (← modeOf letter)) = _
    rw [modeOf_of_letter mode]
    rfl
  | @pc w word number =>
    show (do return Command.pc (← Script.number word)) = _
    rw [number_of_spells number]
    rfl
  | @register r w index word digits number =>
    show (do
      let r ← registerOf ('x' :: index)
      return Command.register r (← Script.number word)) = _
    rw [registerOf_of_digits digits, number_of_spells number]
    rfl
  | @trap c cause first =>
    show (do return Command.trap (← number cause) none none) = _
    rw [number_of_spells first]
    rfl
  | @trapAt c a cause address first second =>
    show (do
      let cause ← number cause
      return Command.trap cause (← some <$> number address) none) = _
    rw [number_of_spells first, number_of_spells second]
    rfl
  | @trapBy c a i cause address instruction first second third =>
    show (do
      let instruction ← some <$> instructionOf instruction
      let cause ← number cause
      return Command.trap cause (← some <$> number address) instruction) = _
    rw [instructionOf_of_spells third, number_of_spells first, number_of_spells second]
    rfl
  | @call o p t op page pageType first second third =>
    show (do
      let op ← number op
      let page ← numberOrZero (some page)
      return Command.call op page (← numberOrZero (some pageType))) = _
    rw [number_of_spells first, numberOrZero_of_spells second, numberOrZero_of_spells third]
    rfl
  | @log w word number =>
    show (do return Command.log (← Script.number word)) = _
    rw [number_of_spells number]
    rfl
  | terminate => rfl

/-! ## Lines -/

/-- A part of a line before any comment. -/
def Bare (text : List Char) : Prop :=
  ∀ c ∈ text, c ≠ '#' ∧ c ≠ '\n'

theorem Bare.append {front back : List Char} (before : Bare front) (after : Bare back) :
    Bare (front ++ back) := by
  intro c member
  rcases List.mem_append.mp member with member | member
  · exact before c member
  · exact after c member

theorem Blanks.bare {gap : List Char} (blanks : Blanks gap) : Bare gap := by
  intro c member
  obtain ⟨blank, feed⟩ := blanks c member
  refine ⟨?_, feed⟩
  rintro rfl
  cases blank

theorem Plain.bare {word : Token} (plain : Plain word) : Bare word := by
  intro c member
  obtain ⟨blank, mark⟩ := plain.2 c member
  refine ⟨mark, ?_⟩
  rintro rfl
  cases blank

section Spaced

variable {words : List Token} {content : List Char}

theorem Spaced.bare (spaced : Spaced words content) (plain : ∀ word ∈ words, Plain word) :
    Bare content := by
  induction spaced with
  | last word => exact (plain word List.mem_cons_self).bare
  | @next word words gap text blanks apart rest ih =>
    have first : Bare word := (plain word List.mem_cons_self).bare
    exact (first.append blanks.bare).append (ih fun w member => plain w (List.mem_cons_of_mem _ member))

/-- Words that stand apart are the words of the text. -/
theorem Spaced.words_eq (spaced : Spaced words content) (plain : ∀ word ∈ words, Plain word) :
    Text.words content = words := by
  have alone (word : Token) (plain : Plain word) : Text.words word = [word] :=
    Text.words_of_plain (fun c member => (plain.2 c member).1) plain.1
  induction spaced with
  | last word => exact alone word (plain word List.mem_cons_self)
  | @next word words gap text blanks apart rest ih =>
    rw [Text.words_append_blanks_append (fun c member => (blanks c member).1) apart,
      alone word (plain word List.mem_cons_self),
      ih fun w member => plain w (List.mem_cons_of_mem _ member), List.singleton_append]

end Spaced

/-- A comment is cut off. -/
theorem Comment.takeWhile_append {text comment : List Char} (noted : Comment comment)
    (bare : Bare text) : (text ++ comment).takeWhile (· ≠ '#') = text := by
  rw [List.takeWhile_append_of_pos fun c member => decide_eq_true (bare c member).1]
  cases noted with
  | none => exact List.append_nil text
  | some inside => exact List.append_nil text

theorem Comment.not_mem {comment : List Char} (noted : Comment comment) : '\n' ∉ comment := by
  cases noted with
  | none => exact List.not_mem_nil
  | some inside =>
    rw [List.mem_cons, not_or]
    exact ⟨by decide, inside⟩

namespace Row.Written

variable {row : Row}

/-- A line consists of its words, which are those of its command, and a comment. -/
theorem parts (written : row.Written) :
    ∃ body comment, row.text = body ++ comment ∧ Bare body ∧ Comment comment ∧
      match row.command with
      | none => Text.words body = []
      | some c => c.Spelled (Text.words body) := by
  cases written with
  | @command c words content lead trail comment spelled spaced before after noted =>
    have plain : ∀ word ∈ words, Plain word := spelled.plain
    have shown : Text.words (lead ++ content ++ trail) = words := by
      rw [Text.words_append_blanks fun c member => (after c member).1,
        Text.words_blanks_append fun c member => (before c member).1, spaced.words_eq plain]
    refine ⟨_, comment, rfl, (before.bare.append (spaced.bare plain)).append after.bare, noted, ?_⟩
    rwa [shown]
  | @empty lead comment before noted =>
    have shown := Text.words_append_blanks (fun c member => (before c member).1) []
    rw [List.nil_append, Text.words_nil] at shown
    exact ⟨lead, comment, rfl, before.bare, noted, shown⟩

/-- A line is read as the command that it shows. -/
theorem commandOfLine_eq (written : row.Written) : commandOfLine row.text = .ok row.command := by
  obtain ⟨body, comment, text, bare, noted, shown⟩ := written.parts
  unfold commandOfLine
  rw [text, noted.takeWhile_append bare]
  cases found : row.command with
  | none =>
    rw [found] at shown
    rw [shown]
  | some c =>
    rw [found] at shown
    dsimp only at shown
    cases words : Text.words body with
    | nil =>
      rw [words] at shown
      cases shown
    | cons name operands =>
      rw [words] at shown
      dsimp only
      rw [command_of_spelled shown]
      rfl

theorem not_mem (written : row.Written) : '\n' ∉ row.text := by
  obtain ⟨body, comment, text, bare, noted, -⟩ := written.parts
  rw [text, List.mem_append, not_or]
  exact ⟨fun member => (bare _ member).2 rfl, noted.not_mem⟩

end Row.Written

theorem numbered_cons (first : Nat) (row : Row) (rows : List Row) :
    numbered first (row :: rows) =
      (row.command.map ({ number := first, command := · })).toList ++ numbered (first + 1) rows := by
  obtain ⟨found, text⟩ := row
  unfold numbered
  rw [List.zipIdx_cons, List.filterMap_cons]
  cases found <;> rfl

/-- Each line of a sheet is read as the command that it shows. -/
theorem ofLines_sheet {rows : List Row} (written : ∀ row ∈ rows, row.Written) (first : Nat) :
    ofLines first (Text.lines (sheet rows)) = .ok (numbered first rows) := by
  induction rows generalizing first with
  | nil => rfl
  | cons row rows ih =>
    have line := (written row List.mem_cons_self).commandOfLine_eq
    have inside := (written row List.mem_cons_self).not_mem
    have later : ∀ row ∈ rows, row.Written := fun r member => written r (List.mem_cons_of_mem _ member)
    cases rows with
    | nil =>
      have whole : sheet [row] = row.text := List.intercalate_singleton
      rw [whole, Text.lines_of_last inside, numbered_cons]
      split
      · next nothing =>
        -- The text ends before this line, which then shows no command.
        rw [List.isEmpty_iff.mp nothing] at line
        have none : none = row.command := Except.ok.inj line
        rw [← none]
        rfl
      · rw [ofLines_cons line]
        rfl
    | cons next rows =>
      have parts : sheet (row :: next :: rows) = row.text ++ '\n' :: sheet (next :: rows) := by
        unfold sheet
        simp
      rw [parts, Text.lines_append inside, ofLines_cons ((commandOfLine_dropReturn _).trans line),
        ih later, numbered_cons first row]
      rfl

/-! ## Commands that are read -/

/-- An operand is found if and only if there is a word for it. -/
theorem isSome_of_optional {α : Type} {read : Token → Except Problem α} {word : Option Token}
    {found : Option α} (done : optional read word = .ok found) : found.isSome = word.isSome := by
  cases word with
  | none =>
    cases done
    rfl
  | some word =>
    rw [optional] at done
    cases answer : read word with
    | error problem =>
      rw [answer] at done
      cases done
    | ok value =>
      rw [answer] at done
      cases done
      rfl

/-- A trap is read from its own command only, its address from the word before its instruction. -/
theorem operands_of_trap {name : Token} {operands : List Token} {cause : Word}
    {address : Option Word} {instruction : Option (BitVec 32)}
    (done : command name operands = .ok (.trap cause address instruction)) :
    ∃ rest : List Token, optional number rest[0]? = .ok address ∧
      optional instructionOf rest[1]? = .ok instruction := by
  unfold command at done
  dsimp only at done
  split at done
  case h_7 =>
    -- The name of a trap.
    split at done
    · next word rest =>
      split at done
      · cases done
      · obtain ⟨instruction, second, done⟩ := bind_eq_ok.mp done
        obtain ⟨cause, -, done⟩ := bind_eq_ok.mp done
        obtain ⟨address, first, done⟩ := bind_eq_ok.mp done
        cases done
        exact ⟨rest, first, second⟩
    · cases done
  case h_1 | h_8 =>
    -- Installations and calls have optional operands too.
    split at done
    · split at done
      · cases done
      · simp [bind_eq_ok, pure, Except.pure] at done
    · cases done
  case h_10 => cases done
  all_goals
    split at done
    · simp [bind_eq_ok, pure, Except.pure] at done
    · cases done

/-- Words are read as complete commands only. -/
theorem complete_of_command {name : Token} {operands : List Token} {c : Command}
    (done : command name operands = .ok c) : c.Complete := by
  cases c with
  | trap cause address instruction =>
    obtain ⟨rest, first, second⟩ := operands_of_trap done
    intro given
    cases rest with
    | nil =>
      cases second
      exact absurd rfl given
    | cons word rest =>
      rw [← Option.isSome_iff_ne_none]
      exact isSome_of_optional first
  | _ => trivial

/-- A line shows a complete command or none. -/
theorem complete_of_commandOfLine {text : List Char} {c : Command}
    (line : commandOfLine text = .ok (some c)) : c.Complete := by
  unfold commandOfLine at line
  split at line
  · cases line
  · next name operands words =>
    cases answer : command name operands with
    | error problem =>
      rw [answer] at line
      cases line
    | ok read =>
      rw [answer] at line
      cases line
      exact complete_of_command answer

/-- Lines are read as complete commands only. -/
theorem complete_of_ofLines {texts : List (List Char)} {first : Nat} {lines : List Line}
    (done : ofLines first texts = .ok lines) : ∀ line ∈ lines, line.command.Complete := by
  induction texts generalizing first lines with
  | nil =>
    cases done
    exact fun line member => absurd member List.not_mem_nil
  | cons text texts ih =>
    obtain ⟨found, later, here, rest, rfl⟩ := ofLines_cons_eq_ok done
    intro line member
    rcases List.mem_append.mp member with own | after
    · cases found with
      | none => cases own
      | some c =>
        rw [List.mem_singleton.mp own]
        exact complete_of_commandOfLine here
    · exact ih rest line after

theorem exists_letter (m : Mode) : ∃ letter, m.Letter letter := by
  cases m with
  | machine => exact ⟨['m'], .machine (.inl rfl)⟩
  | supervisor => exact ⟨['s'], .supervisor (.inl rfl)⟩
  | user => exact ⟨['u'], .user (.inl rfl)⟩

/-- The complete commands are those that can be written. -/
theorem Command.complete_iff (c : Command) : c.Complete ↔ ∃ words, c.Spelled words := by
  constructor
  · intro complete
    cases c with
    | install level base vectoring =>
      obtain ⟨letter, mode⟩ := exists_letter level
      exact ⟨_, .install vectoring mode (Numeral.spells_toDigits _)⟩
    | delegate exceptions interrupts =>
      exact ⟨_, .delegate (Numeral.spells_toDigits _) (Numeral.spells_toDigits _)⟩
    | mode m =>
      obtain ⟨letter, mode⟩ := exists_letter m
      exact ⟨_, .mode mode⟩
    | pc w => exact ⟨_, .pc (Numeral.spells_toDigits _)⟩
    | register r w =>
      exact ⟨_, .register (Numeral.digits_toDigits (by decide) _) (Numeral.spells_toDigits _)⟩
    | trap cause address instruction =>
      cases address with
      | none =>
        cases instruction with
        | none => exact ⟨_, .trap (Numeral.spells_toDigits _)⟩
        | some i => exact absurd rfl (complete (by simp))
      | some a =>
        cases instruction with
        | none => exact ⟨_, .trapAt (Numeral.spells_toDigits _) (Numeral.spells_toDigits _)⟩
        | some i =>
          exact ⟨_, .trapBy (Numeral.spells_toDigits _) (Numeral.spells_toDigits _)
            (Numeral.spells_toDigits _)⟩
    | call op page pageType =>
      exact ⟨_, .call (Numeral.spells_toDigits _) (Numeral.spells_toDigits _)
        (Numeral.spells_toDigits _)⟩
    | log w => exact ⟨_, .log (Numeral.spells_toDigits _)⟩
    | terminate => exact ⟨_, .terminate⟩
  · rintro ⟨words, spelled⟩
    cases words with
    | nil => cases spelled
    | cons name operands => exact complete_of_command (command_of_spelled spelled)

/-- The commands of numbered lines are those that the lines show. -/
theorem map_command_numbered (first : Nat) (rows : List Row) :
    (numbered first rows).map Line.command = rows.filterMap Row.command := by
  induction rows generalizing first with
  | nil => rfl
  | cons row rows ih =>
    rw [numbered_cons, List.map_append, ih, List.filterMap_cons]
    cases row.command <;> rfl

/-- Lines that show commands are read as these commands, each with the number of its line. The commands
that can be written are the complete ones, and a text is read as complete commands only. -/
theorem parse_written :
    (∀ rows : List Row, (∀ row ∈ rows, row.Written) →
      parse (sheet rows) = .ok (numbered 1 rows) ∧
        (numbered 1 rows).map Line.command = rows.filterMap Row.command) ∧
      (∀ c : Command, c.Complete ↔ ∃ words, c.Spelled words) ∧
      ∀ text lines, parse text = .ok lines → ∀ line ∈ lines, line.command.Complete :=
  ⟨fun rows written => ⟨ofLines_sheet written 1, map_command_numbered 1 rows⟩,
    Command.complete_iff, fun _ _ done => complete_of_ofLines done⟩

/-- A script with words in both bases, blanks of several widths, a carriage return, comments and an empty last
line. -/
def drill : List Row :=
  [⟨none, "# a supervisor with its own handler".toList⟩,
    ⟨some (.install .supervisor 0x300 .vectored), "install\tS 0x3_00\u2003\u3000vectored\r".toList⟩,
    ⟨none, "\u00a0\t".toList⟩,
    ⟨some (.register 12 1), "  reg x12 1 # the page type".toList⟩,
    ⟨some (.trap 9 (some 0) (some 0x73)), "trap 9 0x0 115#".toList⟩,
    ⟨none, []⟩]

theorem drill_written : ∀ row ∈ drill, row.Written := by
  have base : Spells 0x300 "0x3_00".toList :=
    .hexadecimal rfl (Numeral.digits_toDigits (by decide) 0x300)
  have index : Digits 10 "12".toList 12 := Numeral.digits_toDigits (by decide) 12
  have one : Spells 1 "1".toList := Numeral.spells_toDigits 1
  have cause : Spells 9 "9".toList := Numeral.spells_toDigits 9
  have address : Spells 0 "0x0".toList := .hexadecimal rfl (Numeral.digits_toDigits (by decide) 0)
  have instruction : Spells 0x73 "115".toList := Numeral.spells_toDigits 0x73
  have space : Blanks [' '] := by decide
  have apart : [' '] ≠ [] := List.cons_ne_nil _ _
  unfold drill
  simp only [List.forall_mem_cons, List.not_mem_nil, false_implies, implies_true, and_true]
  refine ⟨?comment, ?install, ?blank, ?register, ?trap, ?empty⟩
  case comment => exact @Row.Written.empty [] _ (by decide) (.some (by decide))
  case install =>
    exact @Row.Written.command _ _ "install\tS 0x3_00\u2003\u3000vectored".toList [] ['\r'] []
      (.install .vectored (.supervisor (.inr rfl)) base)
      (@Spaced.next _ _ ['\t'] _ (by decide) (by decide) <| .next space apart <|
        @Spaced.next _ _ ['\u2003', '\u3000'] _ (by decide) (by decide) <| .last _)
      (by decide) (by decide) .none
  case blank => exact @Row.Written.empty "\u00a0\t".toList [] (by decide) .none
  case register =>
    exact @Row.Written.command _ _ "reg x12 1".toList [' ', ' '] [' '] "# the page type".toList
      (.register index one) (.next space apart <| .next space apart <| .last _)
      (by decide) space (.some (by decide))
  case trap =>
    exact @Row.Written.command _ _ "trap 9 0x0 115".toList [] [] ['#']
      (.trapBy cause address instruction)
      (.next space apart <| .next space apart <| .next space apart <| .last _)
      (by decide) (by decide) (.some List.not_mem_nil)
  case empty => exact @Row.Written.empty [] [] (by decide) .none

/-- The commands of the drill stand on its second, fourth and fifth lines. -/
theorem parse_written_drill :
    (∀ row ∈ drill, row.Written) ∧
      parse (sheet drill) = .ok
        [⟨2, .install .supervisor 0x300 .vectored⟩, ⟨4, .register 12 1⟩,
          ⟨5, .trap 9 (some 0) (some 0x73)⟩] ∧
      ∀ line ∈ numbered 1 drill, line.command.Complete := by
  obtain ⟨written, -, complete⟩ := parse_written
  obtain ⟨parsed, -⟩ := written drill drill_written
  exact ⟨drill_written, parsed, complete (sheet drill) (numbered 1 drill) parsed⟩

end Script

end HartTraps
