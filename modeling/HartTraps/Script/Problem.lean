/-!
# Problems in a script

Each way in which a line can be wrong is a constructor; `Problem.message` is its wording.
-/

namespace HartTraps.Script

/-- What is wrong with a script line. -/
inductive Problem where
  | unknownCommand (name : String)
  | wrongArity (name : String) (least most given : Nat)
  | invalidNumber (word : String)
  | invalidMode (word : String)
  | invalidRegister (word : String)
  | unknownVectoring (word : String)
  | wideInstruction (word : String)
  deriving DecidableEq

/-- The wording of a problem. -/
def Problem.message : Problem → String
  | unknownCommand name => "unknown command '" ++ name ++ "'"
  | wrongArity name least most given =>
    "'" ++ name ++ "' takes " ++ toString least ++ "..=" ++ toString most ++ " arguments, got " ++
      toString given
  | invalidNumber word => "invalid number '" ++ word ++ "'"
  | invalidMode word => "invalid mode '" ++ word ++ "' (expected m, s or u)"
  | invalidRegister word => "invalid register '" ++ word ++ "'"
  | unknownVectoring word => "unknown vector mode '" ++ word ++ "'"
  | wideInstruction word => "instruction '" ++ word ++ "' wider than 32 bits"

end HartTraps.Script
