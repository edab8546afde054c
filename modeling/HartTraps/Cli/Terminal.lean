/-!
# Terminals

A command reaches files and prints through a `Host`, so that it runs on the host of the process as
well as on a `Terminal`, which holds its files in memory and remembers what was printed. Where the
paths of a terminal lead is a part of it, so that what holds of every terminal holds for any tree of
files.
-/

namespace HartTraps.Cli

/-- Why a file cannot be read. -/
inductive ReadFailure where
  /-- There is no such file. -/
  | missing
  /-- It can be opened but not read, as a folder. -/
  | unreadable
  /-- It yields zero bytes without end. -/
  | endless
  deriving DecidableEq

/-- Why a file cannot be written. -/
inductive WriteFailure where
  /-- It cannot be opened. -/
  | refused
  /-- It can be opened but has no room. -/
  | full
  deriving DecidableEq

/-- How a command reaches its surroundings in the monad `m`. -/
structure Host (m : Type → Type) where
  read : String → m (Except ReadFailure (List UInt8))
  /-- Replaces or creates a file. -/
  write : String → List UInt8 → m (Except WriteFailure Unit)
  /-- Prints on standard output. -/
  print : String → m Unit
  /-- Prints on standard error. -/
  complain : String → m Unit

/-- Files that keep no bytes. -/
inductive Device where
  /-- It is always empty and takes any bytes. -/
  | null
  /-- It yields bytes without end and takes any. -/
  | source
  /-- It yields bytes without end and has no room for any. -/
  | full
  /-- Standard output. -/
  | output
  /-- Standard error. -/
  | errors
  deriving DecidableEq

/-- Where a path leads. -/
inductive Place where
  /-- The file with this name; it need not exist. Paths that lead to one file agree on its name. -/
  | file (name : String)
  | device (d : Device)
  | folder
  /-- No place where a file could be. -/
  | nowhere
  deriving DecidableEq

/-- Files in memory and what was printed. -/
structure Terminal where
  /-- Where the paths lead. -/
  place : String → Place
  /-- The files by name, the most recently written first. -/
  files : List (String × List UInt8)
  /-- The bytes on standard output. -/
  output : List UInt8 := []
  /-- The bytes on standard error. -/
  errors : List UInt8 := []

namespace Terminal

/-- What a path reads as. -/
def read (t : Terminal) (path : String) : Except ReadFailure (List UInt8) :=
  match t.place path with
  | .file name =>
    match t.files.lookup name with
    | some bytes => .ok bytes
    | none => .error .missing
  | .device .null => .ok []
  | .device .source | .device .full => .error .endless
  | .device .output | .device .errors | .folder => .error .unreadable
  | .nowhere => .error .missing

/-- The terminal after bytes were written to a path. A device without room takes no bytes, which is
no failure if there are none. -/
def write (t : Terminal) (path : String) (bytes : List UInt8) : Except WriteFailure Terminal :=
  match t.place path with
  | .file name => .ok { t with files := (name, bytes) :: t.files.filter (·.1 ≠ name) }
  | .device .null | .device .source => .ok t
  | .device .full => if bytes = [] then .ok t else .error .full
  | .device .output => .ok { t with output := t.output ++ bytes }
  | .device .errors => .ok { t with errors := t.errors ++ bytes }
  | .folder | .nowhere => .error .refused

/-- The terminal after a text was printed. -/
def print (t : Terminal) (text : String) : Terminal :=
  { t with output := t.output ++ text.toUTF8.data.toList }

/-- The terminal after a text was printed on standard error. -/
def complain (t : Terminal) (text : String) : Terminal :=
  { t with errors := t.errors ++ text.toUTF8.data.toList }

/-- A terminal as the surroundings of a command. -/
def host : Host (StateM Terminal) where
  read path t := (t.read path, t)
  write path bytes t :=
    match t.write path bytes with
    | .ok u => (.ok (), u)
    | .error failure => (.error failure, t)
  print text t := ((), t.print text)
  complain text t := ((), t.complain text)

theorem lookup_filter_of_ne {key other : String} (ne : key ≠ other) (files : List (String × List UInt8)) :
    (files.filter (·.1 ≠ other)).lookup key = files.lookup key := by
  induction files with
  | nil => rfl
  | cons file files ih =>
    obtain ⟨stored, bytes⟩ := file
    by_cases replaced : stored = other
    · have kept : (key == stored) = false := beq_false_of_ne (replaced ▸ ne)
      rw [List.filter_cons_of_neg (by simp [replaced]), ih, List.lookup_cons, kept]
    · rw [List.filter_cons_of_pos (by simp [replaced]), List.lookup_cons, List.lookup_cons, ih]

@[simp] theorem place_print (t : Terminal) (text : String) : (t.print text).place = t.place := rfl

@[simp] theorem read_print (t : Terminal) (text path : String) :
    (t.print text).read path = t.read path := rfl

section Write

variable {t u : Terminal} {path other : String} {bytes : List UInt8} (written : t.write path bytes = .ok u)

include written

theorem place_write : u.place = t.place := by
  unfold write at written
  split at written
  all_goals try split at written
  all_goals cases written
  all_goals rfl

/-- A file that was written reads as its bytes. -/
theorem read_write {name : String} (place : t.place path = .file name) : u.read path = .ok bytes := by
  unfold write at written
  rw [place] at written
  obtain rfl := Except.ok.inj written
  simp [read, place]

/-- To write a file changes no file at another place. -/
theorem read_write_of_ne (ne : t.place path ≠ t.place other) : u.read other = t.read other := by
  unfold write at written
  split at written
  · next name place =>
    cases written
    unfold read
    dsimp only
    cases there : t.place other with
    | file name' =>
      have apart : name' ≠ name := by
        rintro rfl
        exact ne (place.trans there.symm)
      simp only [List.lookup_cons, beq_false_of_ne apart, lookup_filter_of_ne apart]
    | device d => cases d <;> rfl
    | folder => rfl
    | nowhere => rfl
  -- Any other place keeps no bytes.
  all_goals try split at written
  all_goals cases written
  all_goals rfl

end Write

end Terminal

end HartTraps.Cli
