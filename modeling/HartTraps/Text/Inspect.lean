/-!
# Structural text of values

Diagnostics show a value by its constructor: `Fail(66)` for arguments in order and
`Ecall { op: 4, page: 0 }` for named fields. This module joins already written parts; each type
says in its own module which parts it has.
-/

namespace HartTraps.Inspect

/-- A constructor with its arguments in parentheses. -/
def tuple (name : String) (fields : List String) : String :=
  name ++ "(" ++ ", ".intercalate fields ++ ")"

/-- A constructor with its named fields in braces. -/
def record (name : String) (fields : List (String × String)) : String :=
  name ++ " \x7b " ++ ", ".intercalate (fields.map fun (key, value) => key ++ ": " ++ value) ++ " \x7d"

/-- Items between square brackets. -/
def list (items : List String) : String :=
  "[" ++ ", ".intercalate items ++ "]"

/-- An absent value is `None`, a present one is wrapped in `Some`. -/
def option : Option String → String
  | none => "None"
  | some text => tuple "Some" [text]

end HartTraps.Inspect
