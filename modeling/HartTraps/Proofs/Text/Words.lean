import HartTraps.Text.Blank

/-!
# Words between blanks

Words never reach across a blank, so the words of a text are those before a blank and those after it.
Blanks at the ends of a text therefore do not matter, nor does the carriage return of a line.
-/

namespace HartTraps.Text

/-- The pieces before an end character and those after it. -/
theorem pieces_append_cons {isEnd : Char → Bool} {c : Char} (ends : isEnd c = true)
    (front back : List Char) :
    pieces isEnd (front ++ c :: back) = pieces isEnd front ++ pieces isEnd back := by
  induction front with
  | nil => rw [List.nil_append, pieces_cons, if_pos ends, pieces_nil, List.singleton_append]
  | cons x front ih =>
    rw [List.cons_append, pieces_cons, pieces_cons, ih]
    split
    · rw [List.cons_append]
    · obtain ⟨first, rest, parts⟩ := List.exists_cons_of_ne_nil (pieces_ne_nil isEnd front)
      rw [parts]
      rfl

/-- A text without end characters is one piece. -/
theorem pieces_of_inside {isEnd : Char → Bool} {text : List Char}
    (inside : ∀ c ∈ text, isEnd c = false) : pieces isEnd text = [text] := by
  induction text with
  | nil => rfl
  | cons c text ih =>
    rw [pieces_cons, inside c List.mem_cons_self, ih fun x member => inside x (List.mem_cons_of_mem c member)]
    rfl

/-- There is one piece more than there are end characters. -/
theorem length_pieces (isEnd : Char → Bool) (text : List Char) :
    (pieces isEnd text).length = text.countP isEnd + 1 := by
  induction text with
  | nil => rfl
  | cons c text ih =>
    rw [pieces_cons, List.countP_cons]
    split
    · rw [List.length_cons, ih]
    · rw [List.length_modifyHead, ih, Nat.add_zero]

/-- The words before a blank and those after it. -/
theorem words_append_cons {c : Char} (blank : isBlank c = true) (front back : List Char) :
    words (front ++ c :: back) = words front ++ words back := by
  unfold words
  rw [pieces_append_cons blank, List.filter_append]

theorem words_nil : words [] = [] := rfl

/-- Blanks before a text do not matter. -/
theorem words_blanks_append {gap : List Char} (blanks : ∀ c ∈ gap, isBlank c = true)
    (text : List Char) : words (gap ++ text) = words text := by
  induction gap with
  | nil => rfl
  | cons c gap ih =>
    have rest := words_append_cons (blanks c List.mem_cons_self) [] (gap ++ text)
    rw [List.nil_append, words_nil, List.nil_append] at rest
    rw [List.cons_append, rest, ih fun x member => blanks x (List.mem_cons_of_mem c member)]

/-- Blanks between two texts keep their words apart. -/
theorem words_append_blanks_append {gap : List Char} (blanks : ∀ c ∈ gap, isBlank c = true)
    (some_left : gap ≠ []) (front back : List Char) :
    words (front ++ gap ++ back) = words front ++ words back := by
  obtain ⟨c, gap, rfl⟩ := List.exists_cons_of_ne_nil some_left
  rw [List.append_assoc, List.cons_append, words_append_cons (blanks c List.mem_cons_self),
    words_blanks_append fun x member => blanks x (List.mem_cons_of_mem c member)]

/-- Blanks after a text do not matter. -/
theorem words_append_blanks {gap : List Char} (blanks : ∀ c ∈ gap, isBlank c = true)
    (text : List Char) : words (text ++ gap) = words text := by
  by_cases none_left : gap = []
  · rw [none_left, List.append_nil]
  · have apart := words_append_blanks_append blanks none_left text []
    rwa [List.append_nil, words_nil, List.append_nil] at apart

/-- A run without blanks is one word. -/
theorem words_of_plain {word : List Char} (plain : ∀ c ∈ word, isBlank c = false)
    (some_left : word ≠ []) : words word = [word] := by
  unfold words
  rw [pieces_of_inside plain]
  simp [some_left]

/-- The carriage return of a line stands after its words. -/
theorem words_takeWhile_dropReturn (line : List Char) :
    words ((dropReturn line).takeWhile (· ≠ '#')) = words (line.takeWhile (· ≠ '#')) := by
  unfold dropReturn
  split
  · next returned =>
    obtain ⟨front, rfl⟩ := List.getLast?_eq_some_iff.mp returned
    rw [List.dropLast_concat, List.takeWhile_append]
    split
    · next whole =>
      -- No comment starts before the carriage return, which is one more blank then.
      rw [List.IsPrefix.eq_of_length (List.takeWhile_prefix _) whole]
      have blank : ∀ c ∈ ['\r'], isBlank c = true := List.forall_mem_singleton.mpr rfl
      exact (words_append_blanks blank front).symm
    · rfl
  · rfl

/-- The last line needs no line feed. -/
theorem lines_of_last {line : List Char} (inside : '\n' ∉ line) :
    lines line = if line.isEmpty then [] else [line] := by
  have last : ∀ c ∈ line, (c == '\n') = false := fun c member =>
    beq_eq_false_iff_ne.mpr fun same => inside (same ▸ member)
  unfold lines
  rw [pieces_of_inside last]
  rfl

end HartTraps.Text
