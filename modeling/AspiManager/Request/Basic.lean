import AspiManager.Device.Key
import AspiManager.Memory.FarPtr
import AspiManager.Request.Flags
import AspiManager.Request.Status

/-!
# Requests

One command for one device, with the caller's buffers. Only the three status fields change while a
request is executed.
-/

namespace AspiManager

/-- A buffer of the caller: where it is and how much it holds. -/
structure Buffer where
  ptr : FarPtr
  len : UInt32
  deriving DecidableEq, Repr, Inhabited

/-- A request to execute a command block on a device. -/
structure Request where
  adapter : UInt8 := 0
  target : UInt8 := 0
  lun : UInt8 := 0
  flags : Flags := .none
  cdb : Bytes := []
  data : Buffer := ⟨.null, 0⟩
  sense : Buffer := ⟨.null, 0⟩
  /-- The link pointer, which is dumped and never followed. -/
  link : UInt32 := 0
  postProc : Option FarPtr := none
  status : Status := .pending
  hostStatus : UInt8 := 0
  targetStatus : UInt8 := 0
  deriving DecidableEq, Repr, Inhabited

namespace Request

/-- The longest command block that is executed. -/
def maxCdbLength : Nat := 16

def key (r : Request) : DeviceKey := ⟨r.adapter, r.target, r.lun⟩

def direction (r : Request) : Direction := r.flags.direction

/-- Whether a post routine is asked for. -/
def posting (r : Request) : Bool := r.flags.has .posting

/-- An empty request for a device. -/
def forDevice (adapter target lun : UInt8) : Request :=
  { adapter := adapter, target := target, lun := lun }

def withCdb (r : Request) (cdb : Bytes) : Request := { r with cdb := cdb }

/-- Lets the device fill the buffer. -/
def readInto (r : Request) (b : Buffer) : Request :=
  { r with flags := (r.flags.clear .output).set .input, data := b }

/-- Sends the buffer to the device. -/
def writeFrom (r : Request) (b : Buffer) : Request :=
  { r with flags := (r.flags.clear .input).set .output, data := b }

def senseInto (r : Request) (b : Buffer) : Request := { r with sense := b }

/-- Asks for the post routine at `entry`. -/
def postTo (r : Request) (entry : FarPtr) : Request :=
  { r with flags := r.flags.set .posting, postProc := some entry }

end Request

end AspiManager
