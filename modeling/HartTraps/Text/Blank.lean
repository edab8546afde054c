/-!
# Blanks, words and lines

A blank is a character with the Unicode property `White_Space`. Words are the maximal runs
without blanks. Lines end at a line feed or at a carriage return with a line feed; `lines_append`
takes the first line off a text.
-/

namespace HartTraps.Text

/-- The 25 characters with the property `White_Space`. -/
def isBlank (c : Char) : Bool :=
  let n := c.toNat
  (0x09 ≤ n && n ≤ 0x0d) || n == 0x20 || n == 0x85 || n == 0xa0 || n == 0x1680 ||
    (0x2000 ≤ n && n ≤ 0x200a) || n == 0x2028 || n == 0x2029 || n == 0x202f || n == 0x205f ||
    n == 0x3000

/-- The pieces of a text between the characters that satisfy `isEnd`, empty ones included. -/
def pieces (isEnd : Char → Bool) (text : List Char) : List (List Char) :=
  text.foldr (fun c rest => if isEnd c then [] :: rest else rest.modifyHead (c :: ·)) [[]]

/-- The maximal runs without blanks. -/
def words (text : List Char) : List (List Char) :=
  (pieces isBlank text).filter (!·.isEmpty)

/-- Drops one carriage return from the end. -/
def dropReturn (line : List Char) : List Char :=
  if line.getLast? = some '\r' then line.dropLast else line

/-- The lines of a text. A line feed ends a line and takes one carriage return before it along; what
stands after the last line feed is a line of its own unless it is empty. -/
def lines (text : List Char) : List (List Char) :=
  let parts := pieces (· == '\n') text
  let rest := parts.getLast?.getD []
  parts.dropLast.map dropReturn ++ if rest.isEmpty then [] else [rest]

@[simp] theorem pieces_nil (isEnd : Char → Bool) : pieces isEnd [] = [[]] := rfl

theorem pieces_cons (isEnd : Char → Bool) (c : Char) (text : List Char) :
    pieces isEnd (c :: text) =
      if isEnd c then [] :: pieces isEnd text else (pieces isEnd text).modifyHead (c :: ·) := rfl

theorem pieces_ne_nil (isEnd : Char → Bool) (text : List Char) : pieces isEnd text ≠ [] := by
  induction text with
  | nil => simp
  | cons c text ih =>
    rw [pieces_cons]
    split
    · simp
    · simpa using ih

/-- Pieces split at an end character. -/
theorem pieces_append {isEnd : Char → Bool} {c : Char} (hc : isEnd c = true) {front : List Char}
    (h : ∀ x ∈ front, isEnd x = false) (text : List Char) :
    pieces isEnd (front ++ c :: text) = front :: pieces isEnd text := by
  induction front with
  | nil => rw [List.nil_append, pieces_cons, if_pos hc]
  | cons x front ih =>
    rw [List.cons_append, pieces_cons, h x List.mem_cons_self,
      ih fun y hy => h y (List.mem_cons_of_mem x hy)]
    rfl

@[simp] theorem lines_nil : lines [] = [] := rfl

/-- The line before the first line feed comes first. -/
theorem lines_append {line : List Char} (h : '\n' ∉ line) (text : List Char) :
    lines (line ++ '\n' :: text) = dropReturn line :: lines text := by
  have inside : ∀ x ∈ line, (x == '\n') = false := fun x hx =>
    beq_eq_false_iff_ne.mpr fun e => h (e ▸ hx)
  have parts : pieces (· == '\n') (line ++ '\n' :: text) = line :: pieces (· == '\n') text :=
    pieces_append rfl inside text
  obtain ⟨first, rest, hp⟩ := List.exists_cons_of_ne_nil (pieces_ne_nil (· == '\n') text)
  simp only [lines, parts, hp]
  rfl

end HartTraps.Text
