import HartTraps.Privilege

/-!
# Calls and trap frames

An environment call passes an operation, a page base and a page type in the argument registers. A
level that owns a handler keeps one frame, which holds what the handler needs to return from the
trap that it took last.
-/

namespace HartTraps

/-- The request that an environment call passes to its handler. -/
structure CallRequest where
  op : Word
  /-- The page base in which to resume; 0 stays in the page of the call. -/
  page : Word
  pageType : Word
  deriving DecidableEq

/-- The operations that a handler offers. -/
inductive CallOp where
  /-- End the run as passed. -/
  | pass
  /-- End the run as failed. -/
  | fail
  /-- Resume in another mode. -/
  | goto (target : Mode)
  deriving DecidableEq

namespace CallOp

/-- The number of an operation in requests. -/
def code : CallOp → Word
  | pass => 0
  | fail => 1
  | goto .machine => 2
  | goto .supervisor => 3
  | goto .user => 4

/-- The operation with the given number. -/
def ofCode? (code : Word) : Option CallOp :=
  match code.toNat with
  | 0 => some pass
  | 1 => some fail
  | 2 => some (goto .machine)
  | 3 => some (goto .supervisor)
  | 4 => some (goto .user)
  | _ => none

/-- The name of the operation in reports. -/
def name : CallOp → String
  | pass => "HaltPass"
  | fail => "HaltFail"
  | goto target => "Goto" ++ target.name

@[simp] theorem ofCode?_code (op : CallOp) : ofCode? op.code = some op := by
  cases op with
  | goto target => cases target <;> rfl
  | _ => rfl

end CallOp

/-- The scratch registers that a handler saves on entry and restores on return. -/
structure Scratch where
  ra : Word := 0
  t0 : Word := 0
  deriving DecidableEq

/-- What a level's handler keeps about its traps. -/
structure TrapFrame where
  saved : Scratch := {}
  /-- The address to which the handler returned last. -/
  resumeAddress : Word := 0
  /-- The arguments at the last trap, until a move to another page uses them up. -/
  pending : Option CallRequest := none
  /-- The instruction of the last trap, if the event carried it. -/
  instruction : Option (BitVec 32) := none
  /-- How many traps the handler took since it was installed. -/
  trapsTaken : Word := 0
  deriving DecidableEq

instance : Binary CallRequest where
  write r := Binary.write r.op ++ Binary.write r.page ++ Binary.write r.pageType
  read := do
    let op ← Binary.read
    let page ← Binary.read
    let pageType ← Binary.read
    return { op, page, pageType }

instance : Binary Scratch where
  write s := Binary.write s.ra ++ Binary.write s.t0
  read := do
    let ra ← Binary.read
    let t0 ← Binary.read
    return { ra, t0 }

instance : Binary TrapFrame where
  write f :=
    Binary.write f.saved ++ Binary.write f.resumeAddress ++ Binary.write f.pending ++
      Binary.write f.instruction ++ Binary.write f.trapsTaken
  read := do
    let saved ← Binary.read
    let resumeAddress ← Binary.read
    let pending ← Binary.read
    let instruction ← Binary.read
    let trapsTaken ← Binary.read
    return { saved, resumeAddress, pending, instruction, trapsTaken }

end HartTraps
