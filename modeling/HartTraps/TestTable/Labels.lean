import HartTraps.TestTable.Record
import HartTraps.TestTable.Routine

/-!
# Labels of routines

A label map says which routine a label names. Inserting a label again replaces its routine.
-/

namespace HartTraps

/-- The routines of a test program by label, the most recently inserted first. -/
structure Labels where
  entries : List (Label × Routine)

namespace Labels

/-- A map without labels. -/
def empty : Labels := ⟨[]⟩

/-- Names `routine` by the label of `tag`. -/
def insert (map : Labels) (tag : Word) (routine : Routine) : Labels :=
  let label := Label.ofTag tag
  ⟨(label, routine) :: map.entries.filter (·.1 ≠ label)⟩

/-- The routine that the label of `tag` names. -/
def find? (map : Labels) (tag : Word) : Option Routine :=
  (map.entries.find? (·.1 = Label.ofTag tag)).map (·.2)

/-- A label that names `routine`. -/
def labelOf? (map : Labels) (routine : Routine) : Option Label :=
  (map.entries.find? (·.2 = routine)).map (·.1)

/-- The map with the given tags inserted in order. -/
def ofList (pairs : List (Word × Routine)) : Labels :=
  pairs.foldl (fun map pair => map.insert pair.1 pair.2) empty

/-- The labels of a test program, whose routines are laid out four bytes apart from offset 0. -/
def standard : Labels :=
  ofList (Routine.all.zipIdx.map fun (routine, i) => (BitVec.ofNat 64 (4 * i), routine))

theorem find?_insert (map : Labels) (tag other : Word) (routine : Routine) :
    (map.insert tag routine).find? other =
      if Label.ofTag tag = Label.ofTag other then some routine else map.find? other := by
  unfold find? insert
  by_cases h : Label.ofTag tag = Label.ofTag other
  · simp [h]
  · have keep (p : Label × Routine) :
        (p.1 ≠ Label.ofTag tag && p.1 = Label.ofTag other) = (p.1 = Label.ofTag other) := by
      by_cases e : p.1 = Label.ofTag other
      · simp [e, Ne.symm h]
      · simp [e]
    simp [h, List.find?_filter]
    congr 2
    funext p
    simpa using keep p

end Labels

end HartTraps
