import AspiManager.Yaml.Parser
import AspiManager.Yaml.Plain

/-!
# Reading values out of a document

Settings are read by the type that is wanted: any scalar is a text, numbers and truth values have to
be plain, a record is a mapping with fields of known names. Aliases are followed as they are met,
up to a hundred times for each node of the document.
-/

namespace AspiManager

namespace Yaml

/-- A step of reading, which counts how many aliases it may still follow. -/
abbrev Reading := ReaderT (Array Node) (StateT Nat Option)

namespace Reading

/-- The node itself, or the one that it stands for. -/
def follow (n : Node) : Reading Node := do
  match n with
  | .aliasOf i =>
    let left ← get
    if left = 0 then failure
    set (left - 1)
    match (← read)[i]? with
    | some n => return n
    | none => failure
  | n => return n

/-- A text: any scalar. -/
def text (n : Node) : Reading String := do
  match ← follow n with
  | .scalar _ _ s => return s
  | _ => failure

/-- The text of a scalar that may be a value of a standard type. -/
def valueText (type : String) (n : Node) : Reading String := do
  match ← follow n with
  | .scalar _ .plain s => return s
  | .scalar (some tag) .literal s => if tag = standardTag type then return s else failure
  | _ => failure

/-- A number up to `max`. -/
def natural (max : Nat) (n : Node) : Reading Nat := do
  match Plain.natural? (UInt64.size - 1) (← valueText "int" n).toList with
  | some v => if v ≤ max then return v else failure
  | none => failure

def truth (n : Node) : Reading Bool := do
  match Plain.truth? (← valueText "bool" n) with
  | some b => return b
  | none => failure

/-- Whether a node stands for a missing value. -/
def isMissing : Node → Reading Bool
  | .scalar tag .plain s =>
    if tag = some (standardTag "null") then if Plain.isNull s then return true else failure
    else if tag.isSome then return false
    else return s.isEmpty || Plain.isNull s
  | _ => return false

/-- A value that may be missing. -/
def optional {α : Type} (f : Node → Reading α) (n : Node) : Reading (Option α) := do
  let n ← follow n
  if ← isMissing n then return none else return some (← f n)

/-- The entries of a mapping; nothing is an empty mapping. -/
def entries (n : Node) : Reading (List (Node × Node)) := do
  match ← follow n with
  | .mapping _ pairs => return pairs
  | .scalar _ .plain "" => return []
  | _ => failure

/-- The fields of known names among entries. None may come twice; others do not matter. -/
def knownFields (known : List String) :
    List (Node × Node) → List (String × Node) → Reading (List (String × Node))
  | [], found => return found
  | (k, v) :: rest, found => do
    let name ← text k
    if known.contains name then
      if (found.lookup name).isSome then failure
      knownFields known rest ((name, v) :: found)
    else knownFields known rest found

/-- The fields of a record. -/
def fields (known : List String) (n : Node) : Reading (List (String × Node)) := do
  knownFields known (← entries n) []

/-- The value of a field, or a default. -/
def fieldOr {α : Type} (fs : List (String × Node)) (name : String) (f : Node → Reading α)
    (default : α) : Reading α :=
  match fs.lookup name with
  | some n => f n
  | none => return default

/-- The value of a field that has to be there. -/
def required {α : Type} (fs : List (String × Node)) (name : String) (f : Node → Reading α) :
    Reading α :=
  match fs.lookup name with
  | some n => f n
  | none => failure

/-- The name of a choice: the text of a scalar, or the private tag of a null. -/
def choiceName (n : Node) : Reading String := do
  match ← follow n with
  | .scalar (some tag) style s =>
    if !tag.startsWith "!" then return s
    if style = .plain && (s.isEmpty || Plain.isNull s) then
      return if tag = "!" then tag else String.ofList (tag.toList.drop 1)
    failure
  | .scalar none _ s => return s
  | _ => failure

/-- One of some choices, by name. -/
def choice {α : Type} (names : List (String × α)) (n : Node) : Reading α := do
  match names.lookup (← choiceName n) with
  | some a => return a
  | none => failure

/-- The meaning of a scalar; a number has to fit 64 bits. -/
def scalarMeaning (tag : Option String) (style : Style) (s : String) : Reading Meaning := do
  match meaning? tag style s with
  | some (.integer i) =>
    if Int64.minValue.toInt ≤ i ∧ i < UInt64.size then return .integer i else failure
  | some m => return m
  | none => failure

/-- A private tag. -/
def isPrivate (tag : Option String) : Bool := tag.any (·.startsWith "!")

/-- Checks that a node has a meaning all the way down, with collections nested up to a depth. -/
def meaningful : Nat → Node → Reading Unit
  | 0, n => do
    match ← follow n with
    | .scalar tag style s => let _ ← scalarMeaning tag style s
    | _ => failure
  | depth + 1, n => do
    match ← follow n with
    | .scalar tag style s => let _ ← scalarMeaning tag style s
    | .sequence tag items =>
      if isPrivate tag then failure
      items.forM (meaningful depth)
    | .mapping tag pairs =>
      if isPrivate tag then failure
      pairs.forM fun (k, v) => do
        meaningful depth k
        meaningful depth v
    | .aliasOf _ => failure

/-- The meaning of a node, if it is a scalar. -/
def meaningOf? (n : Node) : Reading (Option Meaning) := do
  match ← follow n with
  | .scalar tag style s => return some (← scalarMeaning tag style s)
  | _ => return none

/-- Runs a reading on a text. A text without a document is read as an empty node. -/
def run {α : Type} (f : Node → Reading α) (source : String) : Option α := do
  match ← parse? source with
  | none => StateT.run' (f .empty #[]) 0
  | some d => StateT.run' (f d.root d.anchored) (100 * d.root.size)

end Reading

end Yaml

end AspiManager
