import AspiManager.Bytes.Hex
import AspiManager.Log.Logger

/-!
# Log lines

A record is written as one line: a JSON object with the level, the target and the module path if
they are shown, and the fields in the order of their names.
-/

namespace AspiManager

namespace Log

namespace Line

/-- How one character is written in a JSON string. -/
def escape (c : Char) : String :=
  if c = '"' then "\\\""
  else if c = '\\' then "\\\\"
  else if c = '\n' then "\\n"
  else if c = '\r' then "\\r"
  else if c = '\t' then "\\t"
  else if c.toNat = 8 then "\\b"
  else if c.toNat = 12 then "\\f"
  else if c.toNat < 32 then "\\u00" ++ Hex.padded 2 c.toNat
  else c.toString

def quote (s : String) : String := "\"" ++ String.join (s.toList.map escape) ++ "\""

def value : Value → String
  | .int n => toString n
  | .bool b => if b then "true" else "false"
  | .text s => quote s

/-- A JSON object of members that are written already. -/
def object (members : List (String × String)) : String :=
  "\x7b" ++ String.intercalate "," (members.map fun (k, v) => quote k ++ ":" ++ v) ++ "\x7d"

/-- The members in the order of their names. -/
def sorted (members : List (String × String)) : List (String × String) :=
  members.mergeSort fun a b => decide (a.1 ≤ b.1)

/-- The fields of a record: its message, its values, and its span. -/
def fields (r : Record) : List (String × String) :=
  let span := match r.span with
    | some s => [("id", toString s.id), ("span_names", "[" ++ quote s.name ++ "]")]
    | none => []
  sorted (("message", quote r.message) :: r.fields.map (fun (k, v) => (k, value v)) ++ span)

end Line

/-- The line of a record. -/
def Record.lineText (r : Record) : String :=
  Line.object <|
    [("level", Line.quote r.level.text)] ++
      r.target.toList.map (fun t => ("target", Line.quote t)) ++
      r.modulePath.toList.map (fun t => ("module_path", Line.quote t)) ++
      [("fields", Line.object (Line.fields r))]

end Log

end AspiManager
