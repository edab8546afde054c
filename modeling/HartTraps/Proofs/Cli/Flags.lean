import Mathlib.Data.List.TakeWhile
import Mathlib.Tactic.Tauto
import HartTraps.Cli.Arguments

/-!
# Flags of a command line

Where a flag stands does not matter, as long as no `--` stands before it: after that word all others are
operands. So a flag is set exactly if its word is among those before the first `--`
(`Scan.isSet_of_foldlM`), and the byte order that a command line asks for can be read off its words
(`Invocation.byteOrder_eq`).
-/

namespace HartTraps.Cli

/-- The long name of a flag. -/
def Flag.name : Flag → String
  | recordCauses => "record-causes"
  | decodeLength => "decode-length"
  | bigEndian => "big-endian"

/-- The word that sets a flag. -/
def Flag.word (flag : Flag) : String :=
  "--" ++ flag.name

/-- A flag is given if its word stands before the first `--`. -/
def Flag.Given (flag : Flag) (arguments : List String) : Prop :=
  flag.word ∈ arguments.takeWhile (· ≠ "--")

instance (flag : Flag) (arguments : List String) : Decidable (flag.Given arguments) :=
  inferInstanceAs (Decidable (_ ∈ _))

namespace Flag

theorem ofName?_eq_some_iff {name : String} {flag : Flag} :
    ofName? name = some flag ↔ name = flag.name := by
  constructor
  · intro named
    unfold ofName? at named
    split at named <;> cases named <;> rfl
  · rintro rfl
    cases flag <;> rfl

theorem toList_word (flag : Flag) : flag.word.toList = '-' :: '-' :: flag.name.toList :=
  String.toList_append

theorem word_ne_dashes (flag : Flag) : flag.word ≠ "--" := by
  cases flag <;> decide

theorem notMem_name (flag : Flag) : '=' ∉ flag.name.toList := by
  cases flag <;> decide

end Flag

namespace Scan

/-- What a word does to the flags that are set: it may set the one that it names, and `--` keeps all further
words from setting any. -/
structure Marks (s : Scan) (word : String) (next : Scan) : Prop where
  flags : ∀ flag, next.isSet flag ↔ s.isSet flag ∨ s.operandsOnly = false ∧ word = flag.word
  operandsOnly : next.operandsOnly = (s.operandsOnly || decide (word = "--"))

variable {s next : Scan} {word : String}

/-- A word that names no flag leaves all flags alone. -/
theorem Marks.of_plain (flags : next.flags = s.flags)
    (operandsOnly : next.operandsOnly = s.operandsOnly)
    (plain : s.operandsOnly = true ∨ ∀ cs, word.toList ≠ '-' :: '-' :: cs) : Marks s word next := by
  have same (flag : Flag) : next.isSet flag = s.isSet flag := by
    unfold isSet
    rw [flags]
  rcases plain with only | plain
  · refine ⟨fun flag => ?_, by rw [operandsOnly, only, Bool.true_or]⟩
    rw [same, only]
    simp
  · have noFlag (flag : Flag) : word ≠ flag.word := by
      rintro rfl
      exact plain _ flag.toList_word
    have noDashes : word ≠ "--" := by
      rintro rfl
      exact plain [] rfl
    refine ⟨fun flag => ?_, by rw [operandsOnly, decide_eq_false noDashes, Bool.or_false]⟩
    rw [same]
    simp [noFlag flag]

theorem give_keeps {option : ValueOption} {value : String} (done : s.give option value = .ok next) :
    next.flags = s.flags ∧ next.operandsOnly = s.operandsOnly := by
  unfold give at done
  extract_lets key isValid at done
  split at done
  · cases done
  · cases done
    exact ⟨rfl, rfl⟩

theorem readOperand_keeps (done : s.readOperand word = .ok next) :
    next.flags = s.flags ∧ next.operandsOnly = s.operandsOnly := by
  unfold readOperand at done
  split at done
  · split at done
    · cases done
    · cases done
      exact ⟨rfl, rfl⟩
  · split at done
    · split at done
      · cases done
      · cases done
        exact ⟨rfl, rfl⟩
    · cases done

/-- An option sets the flag with its name, if it has no value. -/
theorem readOption_marks {name : String} {attached : Option String}
    (done : s.readOption name attached = .ok next) :
    next.operandsOnly = s.operandsOnly ∧
      ∀ flag, next.isSet flag ↔ s.isSet flag ∨ attached = none ∧ name = flag.name := by
  unfold readOption at done
  have unnamed (missing : Flag.ofName? name = none) (flag : Flag) : name ≠ flag.name := by
    intro named
    rw [Flag.ofName?_eq_some_iff.mpr named] at missing
    cases missing
  split at done
  · next flag known =>
    split at done
    · cases done
    · cases done
      refine ⟨rfl, fun other => ?_⟩
      have same : name = other.name ↔ flag = other := by
        rw [← Flag.ofName?_eq_some_iff, known, Option.some.injEq]
      simp only [isSet, List.any_cons, Bool.or_eq_true, decide_eq_true_eq, true_and, same]
      exact or_comm
  · next option value _ _ =>
    obtain ⟨flags, operandsOnly⟩ := give_keeps done
    refine ⟨operandsOnly, fun flag => ?_⟩
    simp [isSet, flags]
  · next option missing _ =>
    cases done
    refine ⟨rfl, fun flag => ?_⟩
    simp [isSet, unnamed missing flag]
  · split at done <;> cases done
  · cases done

/-- A word that starts with two dashes is that of the flag with the name that it is split into. -/
theorem named_iff {cs : List Char} {flag : Flag} (long : word.toList = '-' :: '-' :: cs) :
    ((cs.dropWhile (· ≠ '=')).tail?.map String.ofList = none ∧
      String.ofList (cs.takeWhile (· ≠ '=')) = flag.name) ↔ word = flag.word := by
  constructor
  · rintro ⟨bare, named⟩
    have none_left : cs.dropWhile (· ≠ '=') = [] := by
      cases rest : cs.dropWhile (· ≠ '=') with
      | nil => rfl
      | cons c rest' =>
        rw [rest] at bare
        cases bare
    have whole := List.takeWhile_append_dropWhile (p := (· ≠ '=')) (l := cs)
    rw [none_left, List.append_nil] at whole
    rw [whole] at named
    rw [← String.toList_inj, long, flag.toList_word, ← named, String.toList_ofList]
  · rintro rfl
    have same : flag.name.toList = cs := by
      rw [flag.toList_word] at long
      exact (List.cons.inj (List.cons.inj long).2).2
    have inside : ∀ c ∈ cs, decide (c ≠ '=') = true := by
      intro c member
      refine decide_eq_true fun eq => flag.notMem_name ?_
      rw [same, ← eq]
      exact member
    rw [List.dropWhile_eq_nil_iff.mpr inside, List.takeWhile_eq_self_iff.mpr inside, ← same,
      String.ofList_toList]
    exact ⟨rfl, rfl⟩

theorem readWord_marks (done : s.readWord word = .ok next) : Marks s word next := by
  unfold readWord at done
  split at done
  · -- The word is the value of an option, and so no option itself.
    split at done
    · next value =>
      obtain ⟨flags, operandsOnly⟩ := give_keeps done
      refine .of_plain flags operandsOnly (.inr fun cs same => ?_)
      rw [same] at value
      simp at value
    · cases done
  · next _ only =>
    obtain ⟨flags, operandsOnly⟩ := readOperand_keeps done
    exact .of_plain flags operandsOnly (.inl only)
  · next dashes =>
    cases done
    have word_eq : word = "--" := String.toList_inj.mp dashes
    refine ⟨fun flag => ?_, by rw [word_eq]; simp⟩
    have noFlag : word ≠ flag.word := word_eq ▸ flag.word_ne_dashes.symm
    simp [isSet, noFlag]
  · next cs some_left _ options long =>
    obtain ⟨operandsOnly, flags⟩ := readOption_marks done
    have noDashes : word ≠ "--" := by
      rintro rfl
      cases long
      exact some_left rfl
    refine ⟨fun flag => ?_, by rw [operandsOnly, decide_eq_false noDashes, Bool.or_false]⟩
    rw [flags, options, named_iff long]
    simp
  · split at done <;> cases done
  · next plain _ =>
    obtain ⟨flags, operandsOnly⟩ := readOperand_keeps done
    exact .of_plain flags operandsOnly (.inr plain)

theorem foldlM_cons_eq_ok {words : List String} :
    (word :: words).foldlM read s = .ok next ↔
      ∃ mid, s.read word = .ok mid ∧ words.foldlM read mid = .ok next := by
  rw [List.foldlM_cons]
  cases s.read word with
  | error stop => exact ⟨nofun, fun ⟨_, first, _⟩ => nomatch first⟩
  | ok mid => exact ⟨fun done => ⟨mid, rfl, done⟩, fun ⟨_, first, done⟩ => by cases first; exact done⟩

/-- After the verb `help` a word changes nothing but the topic. -/
theorem verb_of_read_help (done : s.read word = .ok next) (help : s.verb = some .help) :
    next.verb = some .help := by
  unfold read at done
  rw [if_pos help] at done
  unfold readTopic at done
  split at done
  · cases done
  · cases done
    exact help

/-- Once help is asked for, nothing else is. -/
theorem verb_of_foldlM_help {words : List String} (done : words.foldlM read s = .ok next)
    (help : s.verb = some .help) : next.verb = some .help := by
  induction words generalizing s with
  | nil =>
    cases done
    exact help
  | cons word words ih =>
    obtain ⟨mid, first, done⟩ := foldlM_cons_eq_ok.mp done
    exact ih done (verb_of_read_help first help)

/-- After the words of a command line a flag is set if it was set before or if its word stands before the first
`--`. -/
theorem isSet_of_foldlM {words : List String} (done : words.foldlM read s = .ok next)
    (noHelp : next.verb ≠ some .help) (flag : Flag) :
    next.isSet flag ↔ s.isSet flag ∨ s.operandsOnly = false ∧ flag.Given words := by
  unfold Flag.Given
  induction words generalizing s with
  | nil =>
    cases done
    simp
  | cons word words ih =>
    have verb : s.verb ≠ some .help := fun help => noHelp (verb_of_foldlM_help done help)
    obtain ⟨mid, first, done⟩ := foldlM_cons_eq_ok.mp done
    unfold read at first
    rw [if_neg verb] at first
    obtain ⟨flags, operandsOnly⟩ := readWord_marks first
    rw [ih done, flags, operandsOnly]
    by_cases dashes : word = "--"
    · subst dashes
      simp [flag.word_ne_dashes.symm]
    · have kept : (word :: words).takeWhile (· ≠ "--") = word :: words.takeWhile (· ≠ "--") :=
        List.takeWhile_cons_of_pos (decide_eq_true dashes)
      rw [kept, List.mem_cons, decide_eq_false dashes, Bool.or_false, eq_comm (a := flag.word)]
      tauto

end Scan

/-- The byte order that a command line asks for. -/
theorem Invocation.byteOrder_eq {arguments : List String} {invocation : Invocation}
    (asked : ofArguments arguments = .ok invocation) :
    invocation.settings.byteOrder = if Flag.bigEndian.Given arguments then .big else .little := by
  unfold ofArguments at asked
  cases read : arguments.foldlM Scan.read {} with
  | error stop =>
    rw [read] at asked
    cases asked
  | ok last =>
    rw [read] at asked
    have meant : last.invocation = .ok invocation := asked
    have noHelp : last.verb ≠ some .help := by
      intro help
      cases awaiting : last.awaiting <;> simp [Scan.invocation, awaiting, help] at meant
    have set := Scan.isSet_of_foldlM read noHelp .bigEndian
    have settings : invocation.settings = last.settings := by
      unfold Scan.invocation at meant
      split at meant <;> cases meant <;> rfl
    have given : last.isSet .bigEndian ↔ Flag.bigEndian.Given arguments := by
      rw [set]
      simp [Scan.isSet]
    rw [settings, ← if_congr given rfl rfl]
    rfl

end HartTraps.Cli
