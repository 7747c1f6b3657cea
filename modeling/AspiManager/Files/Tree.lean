import AspiManager.Bytes.Basic
import AspiManager.Device.IoError
import AspiManager.Text.Quoted

/-!
# File trees

A tree of directories, plain files and the three endless devices, with a working directory. A path
is walked name by name from the root, or from the working directory if no slash is in front; the
walk ends at the canonical place of what the path names, or with the error that the operating system
gives. There are no links.
-/

namespace AspiManager

namespace Files

/-- What is at a place. -/
inductive Node where
  | directory
  | file (octets : Bytes)
  /-- Takes everything and gives nothing. -/
  | null
  /-- Takes everything and gives zeros. -/
  | zero
  /-- Takes nothing and gives zeros. -/
  | full
  deriving DecidableEq, Repr

/-- The names that lead from the root to a place. -/
abbrev Place := List String

namespace Place

def text (p : Place) : String := "/" ++ String.intercalate "/" p

end Place

/-- The nodes at the places below the root, and the working directory. -/
structure Tree where
  nodes : List (Place × Node) := []
  workingDirectory : Place := []
  deriving DecidableEq, Repr

/-- A number of the operating system that a walk or an open can end with. -/
def noEntry : IoError := .number 2

def notDirectory : IoError := .number 20

def isDirectory : IoError := .number 21

def nameTooLong : IoError := .number 36

/-- The most octets of a name in a directory. -/
def maxName : Nat := 255

namespace Tree

/-- What is at a place. -/
def node? (t : Tree) : Place → Option Node
  | [] => some .directory
  | p => t.nodes.lookup p

/-- Puts a node at a place, over what was there. -/
def put (t : Tree) (p : Place) (n : Node) : Tree :=
  { t with nodes := (p, n) :: t.nodes.filter (·.1 != p) }

/-- Puts a node at a place, and directories on the way to it. -/
def add (t : Tree) (p : Place) (n : Node) : Tree :=
  ((List.range p.length).foldl (fun t k => t.put (p.take k) .directory) t).put p n

/-- A tree with the three devices and an empty working directory. -/
def start (workingDirectory : Place) : Tree :=
  ((({ workingDirectory } : Tree).add ["dev", "null"] .null).add ["dev", "zero"] .zero).add
    ["dev", "full"] .full |>.add workingDirectory .directory

/-- The place that a name leads to from a directory. -/
def enter (t : Tree) (p : Place) (name : String) : Except IoError Place :=
  if name = "" ∨ name = "." then .ok p
  else if name = ".." then .ok p.dropLast
  else if maxName < name.utf8ByteSize then .error nameTooLong
  else match t.node? (p ++ [name]) with
    | some _ => .ok (p ++ [name])
    | none => .error noEntry

/-- The place that names lead to, one after the other. Only from a directory a name leads on. -/
def walk (t : Tree) (p : Place) : List String → Except IoError Place
  | [] => .ok p
  | name :: rest =>
    match t.node? p with
    | some .directory =>
      match t.enter p name with
      | .ok q => t.walk q rest
      | .error e => .error e
    | some _ => .error notDirectory
    | none => .error noEntry

/-- A path that starts at the root. -/
def isAbsolute (path : String) : Bool := path.toList.head? == some '/'

/-- The canonical place of what a path names. -/
def locate (t : Tree) (path : String) : Except IoError Place :=
  if path.contains '\x00' then .error .nulInPath
  else if path.isEmpty then .error noEntry
  else t.walk (if isAbsolute path then [] else t.workingDirectory) (path.splitOn "/")

/-- A path from the root: the path itself, or the working directory and the path. -/
def absolute (t : Tree) (path : String) : String :=
  if isAbsolute path then path
  else (if t.workingDirectory.isEmpty then "" else t.workingDirectory.text) ++ "/" ++ path

/-- The canonical path of what a path names; the empty path names the working directory. -/
def canonicalPath (t : Tree) (path : String) : Except IoError String :=
  (t.locate (t.absolute path)).map Place.text

/-- What is said about a path that names nothing. -/
def unresolvedMessage (t : Tree) (path : String) : String :=
  "failed to canonicalize path " ++ Quoted.text (t.absolute path)

/-- The octets of what a path names. A device that never ends cannot be read as a whole. -/
def contents (t : Tree) (path : String) : Except IoError Bytes := do
  match t.node? (← t.locate path) with
  | some (.file octets) => return octets
  | some .null => return []
  | some .directory => throw isDirectory
  | some .zero | some .full => throw (.kind .outOfMemory)
  | none => throw noEntry

/-- The text of what a path names, if it can be read and is valid. -/
def text? (t : Tree) (path : String) : Option String := do
  String.fromUTF8? ⟨(← (t.contents path).toOption).toArray⟩

end Tree

end Files

end AspiManager
