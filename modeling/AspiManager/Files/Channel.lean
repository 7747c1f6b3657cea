import AspiManager.Device.Host
import AspiManager.Files.Tree

/-!
# Files as devices

What a path names is opened for reading and writing at its front. Writes and reads move one
position: a write goes over what is there and may lengthen the file, a read goes on where the last
write or read ended.
-/

namespace AspiManager

namespace Files

/-- An open node and the position in it. -/
structure Channel where
  place : Place
  position : Nat := 0
  deriving DecidableEq, Repr

/-- A file tree and the open channels. -/
structure Volume where
  tree : Tree := {}
  channels : Array Channel := #[]
  deriving DecidableEq, Repr

/-- The octets after some were laid over them at a position. -/
def overlay (old : Bytes) (position : Nat) (new : Bytes) : Bytes :=
  Bytes.fit position old ++ new ++ old.drop (position + new.length)

/-- A device without room. -/
def noSpace : IoError := .number 28

/-- A channel that was never opened. -/
def badChannel : IoError := .number 9

namespace Volume

def openNode (path : String) (v : Volume) : Except IoError Nat × Volume :=
  match v.tree.locate path with
  | .error e => (.error e, v)
  | .ok place =>
    if v.tree.node? place = some .directory then (.error isDirectory, v)
    else (.ok v.channels.size, { v with channels := v.channels.push ⟨place, 0⟩ })

/-- Moves the position of a channel. -/
def seek (v : Volume) (channel : Nat) (c : Channel) (position : Nat) : Volume :=
  { v with channels := v.channels.setIfInBounds channel { c with position } }

def write (channel : Nat) (octets : Bytes) (v : Volume) : Answer Nat × Volume :=
  match v.channels[channel]? with
  | none => (.failed badChannel, v)
  | some c =>
    match v.tree.node? c.place with
    | some (.file old) =>
      let new := overlay old c.position octets
      let v := { v with tree := v.tree.put c.place (.file new) }
      (.done octets.length, v.seek channel c (c.position + octets.length))
    | some .full => (.failed noSpace, v)
    | _ => (.done octets.length, v)

def read (channel count : Nat) (v : Volume) : Answer (Nat × Bytes) × Volume :=
  match v.channels[channel]? with
  | none => (.failed badChannel, v)
  | some c =>
    match v.tree.node? c.place with
    | some (.file octets) =>
      let given := (octets.drop c.position).take count
      (.done (given.length, given), v.seek channel c (c.position + given.length))
    | some .zero | some .full => (.done (count, Bytes.zeros count), v)
    | _ => (.done (0, []), v)

/-- The files of a volume as a host. -/
def host : Host Volume := ⟨openNode, write, read⟩

end Volume

end Files

end AspiManager
