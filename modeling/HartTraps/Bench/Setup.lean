import HartTraps.Bench.Run

/-!
# Setting up a bench

Outside of traps a host installs handlers, sets the delegation masks and the hart's registers, and
appends to the result log.
-/

namespace HartTraps.Bench

/-- The bench with a new handler at `level`: its vector points to `base`, its frame is fresh and the
argument registers are neutral. -/
def withHandler (b : Bench) (level : TrapLevel) (base : Word) (vectoring : Vectoring) : Bench :=
  let hart := b.hart.writeCsr level.csrs.vector (vectoring.vector base)
  let hart := ((hart.write .a0 0).write .a1 0).write .a2 0
  let defaultVector :=
    match level with
    | .machine => b.hart.csrs.read .mtvec
    | .supervisor => b.defaultVector
  { b.setFrame level {} with hart, defaultVector }

/-- Installs a handler. User mode cannot have one. -/
def install (mode : Mode) (base : Word) (vectoring : Vectoring) : Run Bench Unit :=
  match mode.handlerLevel? with
  | none => Run.fail (.invalidHandlerLevel mode)
  | some level => do
    Run.modify (·.withHandler level base vectoring)
    Run.note (.installed level base vectoring)

/-- Sets the masks of exceptions and interrupts that are delegated to Supervisor. -/
def delegate (b : Bench) (exceptions interrupts : Word) : Bench :=
  { b with hart := (b.hart.writeCsr .medeleg exceptions).writeCsr .mideleg interrupts }

/-- Puts the hart into a mode. -/
def setMode (b : Bench) (mode : Mode) : Bench :=
  { b with hart := { b.hart with mode } }

/-- Puts the hart at an address. -/
def setPc (b : Bench) (pc : Word) : Bench :=
  { b with hart := { b.hart with pc } }

/-- Writes a general register. -/
def setRegister (b : Bench) (r : Register) (w : Word) : Bench :=
  { b with hart := b.hart.write r w }

/-- Moves the virtual view of the result log. -/
def rebase (b : Bench) (cursor : Word) : Bench :=
  { b with log := b.log.rebase cursor }

/-- Writes a control register. -/
def setCsr (a : CsrAddress) (w : Word) : Run Bench Unit :=
  Run.modify fun b => { b with hart := b.hart.writeCsr a w }

/-- The word in a control register. -/
def getCsr (a : CsrAddress) : Run Bench Word :=
  (·.hart.csrs.read a) <$> Run.get

/-- Appends a word to the result log. -/
def append (w : Word) : Run Bench Unit := fun b =>
  match b.log.append? w with
  | none => ⟨.error (.logFull b.log.capacity), b, []⟩
  | some log => ⟨.ok (), { b with log }, []⟩

theorem append_of_room {b : Bench} (room : b.log.words.length < b.log.capacity.toNat) (w : Word) :
    append w b = ⟨.ok (), { b with log := { b.log with words := b.log.words ++ [w] } }, []⟩ := by
  unfold append
  rw [Log.append?_of_lt w room]

theorem append_of_full {b : Bench} (full : b.log.capacity.toNat ≤ b.log.words.length) (w : Word) :
    append w b = ⟨.error (.logFull b.log.capacity), b, []⟩ := by
  unfold append
  rw [Log.append?_eq_none_iff.mpr full]

end HartTraps.Bench
