import AspiManager.Device.Errno
import AspiManager.Text.Record

/-!
# Input and output errors

Why a device node does not open, or a write or read on its channel fails: a number of the operating
system, or a kind without one. Two of them mean that the device is held elsewhere.
-/

namespace AspiManager

/-- The kinds of errors that come without a number of the operating system. -/
inductive IoKind where
  | notFound
  | permissionDenied
  | brokenPipe
  | wouldBlock
  | resourceBusy
  | timedOut
  | interrupted
  | unexpectedEof
  | outOfMemory
  | invalidInput
  | writeZero
  | other
  deriving DecidableEq, Repr

namespace IoKind

def text : IoKind → String
  | notFound => "entity not found"
  | permissionDenied => "permission denied"
  | brokenPipe => "broken pipe"
  | wouldBlock => "operation would block"
  | resourceBusy => "resource busy"
  | timedOut => "timed out"
  | interrupted => "operation interrupted"
  | unexpectedEof => "unexpected end of file"
  | outOfMemory => "out of memory"
  | invalidInput => "invalid input parameter"
  | writeZero => "write zero"
  | other => "other error"

end IoKind

/-- Why a file operation failed. -/
inductive IoError where
  | kind (kind : IoKind)
  | number (errno : Nat)
  /-- A path holds the character that ends path names. -/
  | nulInPath
  deriving DecidableEq, Repr

namespace IoError

def message : IoError → String
  | kind k => k.text
  | number n => Errno.text n ++ " (os error " ++ toString n ++ ")"
  | nulInPath => "file name contained an unexpected NUL byte"

/-- The number of the operating system, if there is one. -/
def number? : IoError → Option Nat
  | number n => some n
  | kind _ | nulInPath => none

/-- The number as dumps show it. -/
def numberText (e : IoError) : String := Record.optional (e.number?.map toString)

/-- The device is held elsewhere. -/
def isBusy (e : IoError) : Bool :=
  e == kind .resourceBusy || e == kind .wouldBlock || e == number 16 || e == number 11

/-- The driver has no memory for the message. -/
def isOutOfMemory (e : IoError) : Bool := e == kind .outOfMemory || e == number 12

end IoError

end AspiManager
