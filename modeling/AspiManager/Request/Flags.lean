import AspiManager.Bytes.Hex

/-!
# Request flags and transfer direction

The flag byte of a request keeps every bit a caller sets. Two bits give the direction: one of them
names it, both mean that nothing moves, neither leaves it to the command.
-/

namespace AspiManager

/-- Which way the payload of a request moves. -/
inductive Direction where
  /-- From the device to the caller. -/
  | input
  /-- From the caller to the device. -/
  | output
  /-- Both direction bits are set: nothing moves. -/
  | both
  /-- Neither bit is set: the command decides, and no payload is moved here. -/
  | unchecked
  deriving DecidableEq, Repr

namespace Direction

def hasPayload : Direction → Bool
  | input | output => true
  | both | unchecked => false

def describe : Direction → String
  | input => "Target to host. Length checked."
  | output => "Host to target. Length checked."
  | both => "none"
  | unchecked => "Transfer by scsi cmd. Length not checked"

/-- The name of the direction in dumps. -/
def label : Direction → String
  | input => "In"
  | output => "Out"
  | both => "None"
  | unchecked => "Unchecked"

end Direction

/-- The flag byte of a request. -/
structure Flags where
  bits : UInt8
  deriving DecidableEq, Repr, Inhabited

/-- One bit of the flag byte. -/
inductive Flag where
  | posting
  | link
  | residual
  | input
  | output
  deriving DecidableEq, Repr

namespace Flag

def mask : Flag → UInt8
  | posting => 0x01
  | link => 0x02
  | residual => 0x04
  | input => 0x08
  | output => 0x10

def label : Flag → String
  | posting => "POSTING"
  | link => "LINK"
  | residual => "RESIDUAL"
  | input => "DIR_IN"
  | output => "DIR_OUT"

def all : List Flag := [posting, link, residual, input, output]

end Flag

namespace Flags

def none : Flags := ⟨0⟩

def has (f : Flags) (x : Flag) : Bool := f.bits &&& x.mask != 0

def set (f : Flags) (x : Flag) : Flags := ⟨f.bits ||| x.mask⟩

def clear (f : Flags) (x : Flag) : Flags := ⟨f.bits &&& ~~~x.mask⟩

def direction (f : Flags) : Direction :=
  match f.has .input, f.has .output with
  | true, false => .input
  | false, true => .output
  | true, true => .both
  | false, false => .unchecked

/-- The names of the bits that are set, then the whole byte. -/
def text (f : Flags) : String :=
  let names := (Flag.all.filter f.has).map Flag.label
  "RequestFlags(" ++ String.intercalate "|" (names ++ ["0x" ++ Hex.padded 2 f.bits.toNat]) ++ ")"

end Flags

end AspiManager
