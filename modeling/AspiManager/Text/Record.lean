/-!
# Records as text

The dump of a record is its name and its fields in order, each with the text of its value.
-/

namespace AspiManager

namespace Record

/-- `Name \x7b a: x, b: y \x7d`. -/
def text (name : String) (fields : List (String × String)) : String :=
  name ++ " \x7b " ++ String.intercalate ", " (fields.map fun (k, v) => k ++ ": " ++ v) ++ " \x7d"

/-- A value that may be missing. -/
def optional (v : Option String) : String :=
  match v with
  | some s => "Some(" ++ s ++ ")"
  | none => "None"

/-- A truth value. -/
def truth (b : Bool) : String := if b then "true" else "false"

/-- A list of values. -/
def list (vs : List String) : String := "[" ++ String.intercalate ", " vs ++ "]"

end Record

end AspiManager
