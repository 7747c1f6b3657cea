import AspiManager.Request.Basic
import AspiManager.Srb.Command

/-!
# Request blocks that execute a command

A block is a packed fixed part of 64 octets, the command block, and an area for sense data, with
all words little-endian. `Exec` is the fixed part, `Exec.encode` and `Exec.parse?` go between it and
octets, and `Draft` puts a whole block together for a caller.
-/

namespace AspiManager

namespace Srb

/-- The first octets that all request blocks share. -/
structure Header where
  command : UInt8
  status : UInt8
  adapter : UInt8
  flags : UInt8
  reserved : UInt32
  deriving DecidableEq, Repr

namespace Header

def length : Nat := 8

/-- Reads the header from exactly its octets. -/
def parse? (bs : Bytes) : Option Header :=
  if bs.length = length then
    some ⟨bs.octet 0, bs.octet 1, bs.octet 2, bs.octet 3, bs.word32 4⟩
  else none

end Header

/-- Where the status octet of a block is. -/
def statusOffset : Nat := 1

/-- Where the host status octet of an executing block is. -/
def hostStatusOffset : Nat := 24

/-- Where the target status octet of an executing block is. -/
def targetStatusOffset : Nat := 25

/-- The fixed part of a block that executes a command. -/
structure Exec where
  command : UInt8 := 0
  status : UInt8 := 0
  adapter : UInt8 := 0
  flags : UInt8 := 0
  reserved : UInt32 := 0
  target : UInt8 := 0
  lun : UInt8 := 0
  dataLength : UInt32 := 0
  senseLength : UInt8 := 0
  dataPtr : UInt32 := 0
  linkPtr : UInt32 := 0
  cdbLength : UInt8 := 0
  hostStatus : UInt8 := 0
  targetStatus : UInt8 := 0
  postProc : UInt32 := 0
  workspace : Vector UInt8 34 := Vector.replicate 34 0
  deriving DecidableEq, Repr

namespace Exec

/-- The length of the fixed part. -/
def fixedLength : Nat := 64

def encode (e : Exec) : Bytes :=
  [e.command, e.status, e.adapter, e.flags] ++ Bytes.ofWord32 e.reserved ++ [e.target, e.lun] ++
    Bytes.ofWord32 e.dataLength ++ [e.senseLength] ++ Bytes.ofWord32 e.dataPtr ++
    Bytes.ofWord32 e.linkPtr ++ [e.cdbLength, e.hostStatus, e.targetStatus] ++
    Bytes.ofWord32 e.postProc ++ e.workspace.toList

/-- Reads the fixed part from the front of a block. -/
def parse? (bs : Bytes) : Option Exec :=
  if bs.length < fixedLength then none
  else some
    { command := bs.octet 0, status := bs.octet 1, adapter := bs.octet 2, flags := bs.octet 3,
      reserved := bs.word32 4, target := bs.octet 8, lun := bs.octet 9,
      dataLength := bs.word32 10, senseLength := bs.octet 14, dataPtr := bs.word32 15,
      linkPtr := bs.word32 19, cdbLength := bs.octet 23, hostStatus := bs.octet 24,
      targetStatus := bs.octet 25, postProc := bs.word32 26, workspace := bs.field 34 30 }

/-- The length of the block with its command block and sense area. -/
def totalLength (e : Exec) : Nat := fixedLength + e.cdbLength.toNat + e.senseLength.toNat

/-- Where the sense area of the block at `srb` begins. -/
def sensePtr (e : Exec) (srb : FarPtr) : FarPtr := srb.advance (64 + e.cdbLength.toUInt16)

/-- The request that the block at `srb` stands for; `cdb` is its command block. -/
def toRequest (e : Exec) (srb : FarPtr) (cdb : Bytes) : Request :=
  let post := FarPtr.ofRaw e.postProc
  { adapter := e.adapter, target := e.target, lun := e.lun, flags := ⟨e.flags⟩, cdb := cdb
    data := ⟨.ofRaw e.dataPtr, e.dataLength⟩
    sense := ⟨e.sensePtr srb, e.senseLength.toUInt32⟩
    link := e.linkPtr
    postProc := if post.isNull then none else some post
    status := (Status.ofByte? e.status).getD .pending
    hostStatus := e.hostStatus, targetStatus := e.targetStatus }

end Exec

/-- A block that a caller is about to place in its memory. -/
structure Draft where
  header : Exec
  cdb : Bytes
  deriving DecidableEq, Repr

namespace Draft

def start (adapter target lun : UInt8) : Draft :=
  ⟨{ command := Command.execute.toByte, adapter := adapter, target := target, lun := lun }, []⟩

def flags (d : Draft) (f : Flags) : Draft := { d with header := { d.header with flags := f.bits } }

def data (d : Draft) (b : Buffer) : Draft :=
  { d with header := { d.header with dataPtr := b.ptr.raw, dataLength := b.len } }

def senseLength (d : Draft) (n : UInt8) : Draft :=
  { d with header := { d.header with senseLength := n } }

/-- Sets the command block; its length field keeps only the low octet of the length. -/
def command (d : Draft) (cdb : Bytes) : Draft :=
  { d with header := { d.header with cdbLength := UInt8.ofNat cdb.length }, cdb := cdb }

def postProc (d : Draft) (entry : FarPtr) : Draft :=
  { d with header := { d.header with postProc := entry.raw } }

/-- The fixed part, the command block and a zeroed sense area, cut to the length that the fixed
part states. -/
def build (d : Draft) : Bytes := Bytes.fit d.header.totalLength (d.header.encode ++ d.cdb)

end Draft

end Srb

end AspiManager
